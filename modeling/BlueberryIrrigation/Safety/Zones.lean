import BlueberryIrrigation.Controller.Operation

/-!
# One zone at a time

Three group valves and the garden valve share one well. The group valves follow the stage
that runs in `READY`, the garden valve follows the garden flow, which the machine starts and
never waits for. `ZoneInvariant` says which valve a running program may have open; it is
kept as long as no program is begun over an open valve or a garden flow it does not own.
-/

namespace BlueberryIrrigation

open Semantics Controller

/-- The valves of the three irrigation groups. -/
def groupValves : List (Fin 15) := [10, 11, 12]

/-- The valve a program opens first. -/
def Program.firstZone : Program → Fin 15
  | .group1 | .both => 10
  | .group2 => 11
  | .cleaning => 12
  | .garden | .unknown _ => 13

/-- The valves a program may have open in one of its stages. -/
def Program.zones : Program → List (Fin 15)
  | .group1 => [10]
  | .group2 => [11]
  | .both => [10, 11]
  | .cleaning => [10, 11, 12]
  | .garden | .unknown _ => [13]

/-- The current stage belongs to the program. -/
def Program.Runs (program current : Program) : Prop :=
  match program with
  | .both => current = .both ∨ current = .group1 ∨ current = .group2
  | _ => current = program

/-- A step that begins a program: a start in `READY`, or the update that ends the
preparation with nothing to resume. -/
def Operation.Begins (now : Nat) (s : Controller) (program : Program) : Operation → Prop
  | .start started _ => s.irrigation.status = .ready ∧ program = started
  | .irrigationUpdate =>
      s.irrigation.status = .preparing ∧ ¬ s.GeneratorWaiting now ∧
        s.irrigation.isStopped = 0 ∧ program = s.irrigation.program
  | _ => False

/-- The operations of a run without manual switching of the zones. -/
def Operation.LeavesZonesAlone : Operation → Prop
  | .start program _ => program.Known
  | .deviceToggle device _ => device ∉ groupValves ∧ device ≠ 13
  | .flowStart flow _ _ => flow ≠ 5
  | _ => True

/-- The zones are free for a program: no group valve but its own first one is open, and no
garden flow is active that is not its own. -/
structure ZonesFree (program : Program) (s : Controller) : Prop where
  valves : ∀ valve ∈ groupValves, s.IsOn valve → valve = program.firstZone
  garden : program ≠ .garden → ¬ s.FlowActive 5

structure ZoneInvariant (s : Controller) : Prop where
  known : s.irrigation.program.Known
  label : s.irrigation.program.Runs s.irrigation.programCurrent
  resting : s.irrigation.isStopped ≠ 0 →
    s.irrigation.status = .finished ∨ s.irrigation.status = .preparing
  closed : s.irrigation.status ≠ .ready → ∀ valve ∈ groupValves, ¬ s.IsOn valve
  opened : s.irrigation.status = .ready →
    ∃ zone ∈ s.irrigation.program.zones, ∀ valve ∈ groupValves, s.IsOn valve → valve = zone
  garden : s.IsOn 13 → s.FlowActive 5
  idle : s.irrigation.status = .ready → s.irrigation.program ≠ .garden → ¬ s.FlowActive 5
  stopped : s.irrigation.isStopped ≠ 0 → ¬ s.FlowActive 5

namespace ZoneInvariant

variable {now : Nat} {s t : Controller}

theorem boot : ZoneInvariant boot where
  known := trivial
  label := rfl
  resting := by simp
  closed := by simp
  opened := by simp
  garden := by simp
  idle := by simp
  stopped := by simp

/-- Nothing is to be resumed while a program runs or the generator cools down. -/
theorem running (inv : ZoneInvariant s) (preparing : s.irrigation.status ≠ .preparing)
    (finished : s.irrigation.status ≠ .finished) : s.irrigation.isStopped = 0 := by
  by_contra pending
  rcases inv.resting pending with is | is
  · exact finished is
  · exact preparing is

/-- Steps that leave the machine and the group valves alone and start no garden flow. -/
theorem frame (inv : ZoneInvariant s) (same : MachineKept s.irrigation t.irrigation)
    (valves : ∀ valve ∈ groupValves, t.IsOn valve → s.IsOn valve)
    (flow : t.FlowActive 5 → s.FlowActive 5) (garden : t.IsOn 13 → t.FlowActive 5) :
    ZoneInvariant t where
  known := by
    rw [same.program]
    exact inv.known
  label := by
    rw [same.program, same.programCurrent]
    exact inv.label
  resting := by
    rw [same.isStopped, same.status]
    exact inv.resting
  closed := by
    rw [same.status]
    exact fun elsewhere valve listed on =>
      inv.closed elsewhere valve listed (valves valve listed on)
  opened := by
    rw [same.status, same.program]
    intro ready
    obtain ⟨zone, own, only⟩ := inv.opened ready
    exact ⟨zone, own, fun valve listed on => only valve listed (valves valve listed on)⟩
  garden := garden
  idle := by
    rw [same.status, same.program]
    exact fun ready other active => inv.idle ready other (flow active)
  stopped := by
    rw [same.isStopped]
    exact fun pending active => inv.stopped pending (flow active)

theorem forceStop (inv : ZoneInvariant s) :
    ZoneInvariant (s.controlIrrigationTempForceStop now) where
  known := by simpa using inv.known
  label := by simpa using inv.label
  resting := by simp
  closed := by simp
  opened := by simp
  garden := by simp
  idle := by simp
  stopped := by simp

theorem prepareGenerator (inv : ZoneInvariant s) (elsewhere : s.irrigation.status ≠ .ready) :
    ZoneInvariant (s.prepareGenerator now) where
  known := inv.known
  label := inv.label
  resting := by simp
  closed := by
    intro _ valve listed
    have other : valve ≠ 0 := by
      rintro rfl
      exact absurd listed (by decide)
    simpa [other] using inv.closed elsewhere valve listed
  opened := by simp
  garden := by simpa using inv.garden
  idle := by simp
  stopped := by simpa using inv.stopped

/-- The first valve of a known program is one of its zones. -/
theorem firstZone_mem (program : Program) : program.firstZone ∈ program.zones := by
  cases program <;> simp [Program.firstZone, Program.zones]

/-- A group valve that a stage opens is its first zone. -/
theorem opened_firstZone {stage : Program} {valve : Fin 15} (listed : valve ∈ groupValves)
    (opens : valve ∈ stage.opened) : valve = stage.firstZone := by
  simp only [groupValves, List.mem_cons, List.not_mem_nil, or_false] at listed
  rcases listed with rfl | rfl | rfl <;> cases stage <;>
    simp_all [Program.opened, Program.firstZone]

theorem firstStage_firstZone (program : Program) :
    program.firstStage.firstZone = program.firstZone := by
  cases program <;> rfl

/-- The first zone of a stage is one of the program it belongs to. -/
theorem runs_firstZone {program current : Program} (runs : program.Runs current) :
    current.firstZone ∈ program.zones := by
  cases program with
  | both =>
      rcases runs with rfl | rfl | rfl <;> simp [Program.firstZone, Program.zones]
  | group1 | group2 | cleaning | garden | unknown =>
      obtain rfl := runs
      exact firstZone_mem _

variable [FlowArithmetic]

/-- Beginning a program in `READY` with its zones free. -/
theorem start_ready (program : Program) (isCleaning : Flag) (known : program.Known)
    (ready : s.irrigation.status = .ready) (free : ZonesFree program s)
    (garden : s.IsOn 13 → s.FlowActive 5) :
    ZoneInvariant (s.controlIrrigationTempStart now program isCleaning) := by
  have irrigation := start_ready_irrigation now s program isCleaning ready
  refine ⟨?_, ?_, ?_, ?_, ?_, ?_, ?_, ?_⟩
  · rw [irrigation]
    exact known
  · rw [irrigation]
    cases program <;> simp [Program.Runs, Program.firstStage]
  · simp [irrigation]
  · simp [irrigation, ready]
  · rw [irrigation]
    intro _
    refine ⟨program.firstZone, firstZone_mem program, fun valve listed on => ?_⟩
    rcases (start_ready_isOn now s program isCleaning ready valve).mp on with opens | before
    · exact (opened_firstZone listed opens).trans (firstStage_firstZone program)
    · exact free.valves valve listed before
  · intro on
    rcases (start_ready_isOn now s program isCleaning ready 13).mp on with opens | before
    · cases program <;> simp [Program.firstStage, Program.opened] at opens
    · exact (start_ready_flowActive now s program isCleaning ready 5).mpr
        (.inr (.inr (garden before)))
  · rw [irrigation]
    intro _ other active
    rcases (start_ready_flowActive now s program isCleaning ready 5).mp active with
      ⟨_, _, flow⟩ | ⟨own, _⟩ | before
    · simp at flow
    · exact other own
    · exact free.garden other before
  · simp [irrigation]

omit [FlowArithmetic] in
/-- Outside `READY`, nothing stopped and every group valve closed. -/
theorem of_closed (known : s.irrigation.program.Known)
    (label : s.irrigation.program.Runs s.irrigation.programCurrent)
    (running : s.irrigation.isStopped = 0) (elsewhere : s.irrigation.status ≠ .ready)
    (closed : ∀ valve ∈ groupValves, ¬ s.IsOn valve) (garden : s.IsOn 13 → s.FlowActive 5) :
    ZoneInvariant s where
  known := known
  label := label
  resting := by simp [running]
  closed _ := closed
  opened := by simp [elsewhere]
  garden := garden
  idle := by simp [elsewhere]
  stopped := by simp [running]

/-- What a turn of a running program needs of the state in which it leaves a stage. -/
structure StageOver (s : Controller) : Prop where
  known : s.irrigation.program.Known
  label : s.irrigation.program.Runs s.irrigation.programCurrent
  running : s.irrigation.isStopped = 0
  ready : s.irrigation.status = .ready
  closed : ∀ valve ∈ groupValves, ¬ s.IsOn valve
  garden : s.IsOn 13 → s.FlowActive 5

omit [FlowArithmetic] in
theorem finishProgram (expired : StageOver s) : ZoneInvariant (s.finishProgram now) := by
  refine of_closed expired.known expired.label expired.running (by simp) ?_ ?_
  · intro valve listed on
    exact expired.closed valve listed ((finishProgram_isOn now s valve).mp on).2
  · intro on
    exact expired.garden ((finishProgram_isOn now s 13).mp on).2

theorem cleanOrFinish (expired : StageOver s) (idle : ¬ s.FlowActive 5) (isCleaning : Flag) :
    ZoneInvariant (s.cleanOrFinish now isCleaning) := by
  unfold Controller.cleanOrFinish
  split
  · exact start_ready .cleaning isCleaning trivial expired.ready
      ⟨fun valve listed on => absurd on (expired.closed valve listed), fun _ => idle⟩ expired.garden
  · exact finishProgram expired

/-- A group's stage is over. -/
theorem updateGroup (inv : ZoneInvariant s) (ready : s.irrigation.status = .ready)
    (other : s.irrigation.program ≠ .garden) {valve : Fin 15}
    (only : ∀ zone ∈ groupValves, s.IsOn zone → zone = valve) :
    ZoneInvariant (s.updateGroup now valve) := by
  unfold Controller.updateGroup
  split
  · exact inv
  · have running := inv.running (by simp [ready]) (by simp [ready])
    have closed : ∀ zone ∈ groupValves,
        ¬ ((s.deviceToggle now 2 0).deviceToggle now valve 0).IsOn zone := by
      intro zone listed on
      rw [deviceToggle_off_isOn, deviceToggle_off_isOn] at on
      exact on.1 (only zone listed on.2.2)
    have garden : ((s.deviceToggle now 2 0).deviceToggle now valve 0).IsOn 13 →
        s.FlowActive 5 := by
      intro on
      rw [deviceToggle_off_isOn, deviceToggle_off_isOn] at on
      exact inv.garden on.2.2
    apply cleanOrFinish
    · exact ⟨inv.known, inv.label, running, ready, closed, garden⟩
    · exact inv.idle ready other

omit [FlowArithmetic] in
/-- `BOTH` relabels its second group's program. -/
theorem relabel (inv : ZoneInvariant s) (group : s.irrigation.program = .group2) :
    ZoneInvariant (s.withIrrigation fun irrigation => { irrigation with program := .both }) where
  known := trivial
  label := by
    have current := inv.label
    rw [group] at current
    exact .inr (.inr current)
  resting := inv.resting
  closed := inv.closed
  opened ready := by
    obtain ⟨zone, own, only⟩ := inv.opened ready
    rw [group] at own
    exact ⟨zone, List.mem_cons_of_mem _ own, only⟩
  garden := inv.garden
  idle ready _ := inv.idle ready (by simp [group])
  stopped := inv.stopped

/-- `BOTH`: the first group's stage hands over to the second group's. -/
theorem updateBoth (inv : ZoneInvariant s) (ready : s.irrigation.status = .ready)
    (both : s.irrigation.program = .both) : ZoneInvariant (s.updateBoth now) := by
  have running := inv.running (by simp [ready]) (by simp [ready])
  have idle : ¬ s.FlowActive 5 := inv.idle ready (by simp [both])
  obtain ⟨zone, own, only⟩ := inv.opened ready
  unfold Controller.updateBoth
  split
  · exact inv
  · split
    · rename_i first
      have closed : ∀ valve ∈ groupValves, ¬ (s.deviceToggle now 10 0).IsOn valve := by
        intro valve listed on
        rw [deviceToggle_off_isOn] at on
        exact on.1 ((only valve listed on.2).trans (only 10 (by decide) first).symm)
      have second : ZoneInvariant ((s.deviceToggle now 10 0).controlIrrigationTempStart now .group2
          s.irrigation.isCleaning) := by
        apply start_ready
        · trivial
        · exact ready
        · exact ⟨fun valve listed on => absurd on (closed valve listed), fun _ => idle⟩
        · simpa using inv.garden
      refine second.relabel ?_
      rw [start_ready_irrigation now (s.deviceToggle now 10 0) .group2 _ ready]
    · rename_i first
      have closed : ∀ valve ∈ groupValves,
          ¬ ((s.deviceToggle now 2 0).deviceToggle now 11 0).IsOn valve := by
        intro valve listed on
        simp only [deviceToggle_isOn] at on
        have same := only valve listed
        simp only [both, Program.zones, List.mem_cons, List.not_mem_nil, or_false] at own
        grind
      apply cleanOrFinish
      · exact ⟨inv.known, inv.label, running, ready, closed, by simpa using inv.garden⟩
      · exact idle

omit [FlowArithmetic] in
/-- The cleaning program moves on to its next group. -/
theorem updateCleaning (inv : ZoneInvariant s) (ready : s.irrigation.status = .ready)
    (cleaning : s.irrigation.program = .cleaning) : ZoneInvariant (s.updateCleaning now) := by
  have running := inv.running (by simp [ready]) (by simp [ready])
  have idle : ¬ s.FlowActive 5 := inv.idle ready (by simp [cleaning])
  have shut : ¬ s.IsOn 13 := fun on => idle (inv.garden on)
  obtain ⟨zone, -, only⟩ := inv.opened ready
  have moved : ∀ (t : Controller) (opens : Fin 15),
      t.irrigation.program = .cleaning →
      t.irrigation.programCurrent = s.irrigation.programCurrent →
      t.irrigation.isStopped = 0 → t.irrigation.status = .ready → opens ∈ groupValves →
      (∀ valve ∈ groupValves, t.IsOn valve → valve = opens) → ¬ t.IsOn 13 → ¬ t.FlowActive 5 →
      ZoneInvariant t := by
    intro t opens program current unstopped status listed alone closed inactive
    refine ⟨?_, ?_, ?_, ?_, ?_, ?_, ?_, ?_⟩
    · rw [program]
      trivial
    · rw [program, current, ← cleaning]
      exact inv.label
    · simp [unstopped]
    · simp [status]
    · rw [program]
      exact fun _ => ⟨opens, listed, alone⟩
    · exact fun on => absurd on closed
    · exact fun _ _ => inactive
    · simp [unstopped]
  unfold Controller.updateCleaning
  split
  · exact inv
  · split
    · rename_i first
      have current := only 10 (by decide) first
      refine moved _ 11 cleaning rfl running ready (by decide) ?_ (by simpa using shut) idle
      intro valve listed on
      simp only [withIrrigation_isOn, deviceToggle_isOn] at on
      have same := only valve listed
      grind
    · split
      · rename_i first second
        have current := only 11 (by decide) second
        refine of_closed inv.known inv.label running (by simp) ?_ (by simp [shut])
        intro valve listed on
        simp only [withIrrigation_isOn, deviceToggle_isOn] at on
        have same := only valve listed
        grind
      · rename_i first second
        refine moved _ 10 cleaning rfl running ready (by decide) ?_ (by simpa using shut) idle
        intro valve listed on
        simp only [withIrrigation_isOn, deviceToggle_isOn] at on
        simp only [groupValves, List.mem_cons, List.not_mem_nil, or_false] at listed
        grind

theorem updateProgram (inv : ZoneInvariant s) (ready : s.irrigation.status = .ready) :
    ZoneInvariant (s.updateProgram now) := by
  obtain ⟨zone, own, only⟩ := inv.opened ready
  unfold Controller.updateProgram
  cases program : s.irrigation.program with
  | group1 =>
      rw [program, Program.zones, List.mem_singleton] at own
      exact inv.updateGroup ready (by simp [program])
        (fun valve listed on => own ▸ only valve listed on)
  | group2 =>
      rw [program, Program.zones, List.mem_singleton] at own
      exact inv.updateGroup ready (by simp [program])
        (fun valve listed on => own ▸ only valve listed on)
  | both => exact inv.updateBoth ready program
  | cleaning => exact inv.updateCleaning ready program
  | garden =>
      dsimp only
      unfold updateGarden
      split
      · exact inv
      · have running := inv.running (by simp [ready]) (by simp [ready])
        refine finishProgram ⟨inv.known, inv.label, running, ready, ?_, inv.garden⟩
        rw [program, Program.zones, List.mem_singleton] at own
        subst own
        intro valve listed on
        obtain rfl := only valve listed on
        exact absurd listed (by decide)
  | unknown => exact inv

omit [FlowArithmetic] in
/-- A resume opens the valve of the stage it goes on with, and all others are closed. -/
theorem resume_ready (inv : ZoneInvariant s) (status : s.irrigation.status = .preparing)
    (pending : s.irrigation.isStopped ≠ 0) :
    ZoneInvariant ((s.beginPumping now).controlIrrigationTempResume now) := by
  have irrigation := resume_ready_irrigation now (s.beginPumping now) pending rfl
  have idle : ¬ s.FlowActive 5 := inv.stopped pending
  have closed : ∀ valve ∈ groupValves, ¬ s.IsOn valve := inv.closed (by simp [status])
  have isOn : ∀ device, ((s.beginPumping now).controlIrrigationTempResume now).IsOn device ↔
      device ∈ s.irrigation.programCurrent.opened ∨ device = 1 ∨ s.IsOn device := by
    intro device
    rw [resume_ready_isOn now (s.beginPumping now) pending rfl device, beginPumping_isOn]
    rfl
  have label := inv.label
  have known := inv.known
  refine ⟨?_, ?_, ?_, ?_, ?_, ?_, ?_, ?_⟩
  · rw [irrigation]
    exact known
  · rw [irrigation]
    exact label
  · simp [irrigation]
  · simp [irrigation]
  · rw [irrigation]
    intro _
    refine ⟨s.irrigation.programCurrent.firstZone, runs_firstZone label, fun valve listed on => ?_⟩
    rcases (isOn valve).mp on with opens | rfl | before
    · exact opened_firstZone listed opens
    · exact absurd listed (by decide)
    · exact absurd before (closed valve listed)
  · intro on
    rcases (isOn 13).mp on with opens | pump | before
    · cases current : s.irrigation.programCurrent <;> simp [current, Program.opened] at opens
    · exact absurd pump (by decide)
    · exact absurd (inv.garden before) idle
  · intro _ other active
    rw [resume_ready_flowActive now (s.beginPumping now) pending rfl 5] at active
    rcases active with ⟨_, _, flow⟩ | ⟨garden, _⟩ | before
    · simp at flow
    · rw [irrigation] at other
      have current : s.irrigation.programCurrent = .garden := garden
      change s.irrigation.program ≠ .garden at other
      cases program : s.irrigation.program <;>
        simp_all [Program.Runs, Program.Known]
    · exact idle before
  · simp [irrigation]

theorem beginProgram (inv : ZoneInvariant s) (status : s.irrigation.status = .preparing)
    (free : s.irrigation.isStopped = 0 → ZonesFree s.irrigation.program s) :
    ZoneInvariant (s.beginProgram now) := by
  unfold Controller.beginProgram
  split
  · rename_i running
    obtain ⟨valves, idle⟩ := free running
    apply start_ready
    · exact inv.known
    · rfl
    · refine ⟨fun valve listed on => ?_, idle⟩
      rcases (beginPumping_isOn now s valve).mp on with rfl | before
      · exact absurd listed (by decide)
      · exact valves valve listed before
    · simpa using inv.garden
  · rename_i pending
    exact inv.resume_ready status pending

omit [FlowArithmetic] in
theorem shutDown (inv : ZoneInvariant s) (status : s.irrigation.status = .finishing) :
    ZoneInvariant (s.shutDown now) := by
  have closed := inv.closed (by simp [status])
  have running := inv.running (by simp [status]) (by simp [status])
  refine of_closed inv.known inv.label running (by simp) ?_ ?_
  · exact fun valve listed on => closed valve listed ((shutDown_isOn now s valve).mp on).2
  · exact fun on => inv.garden ((shutDown_isOn now s 13).mp on).2

omit [FlowArithmetic] in
/-- The assignments of a start outside `READY`. -/
theorem startAssign (inv : ZoneInvariant s) {program : Program} {isCleaning : Flag}
    (known : program.Known) (elsewhere : s.irrigation.status ≠ .ready) :
    ZoneInvariant (s.startAssign program isCleaning) := by
  refine of_closed known ?_ rfl elsewhere (inv.closed elsewhere) inv.garden
  cases program <;> simp [Program.Runs]

theorem update (inv : ZoneInvariant s)
    (free : ∀ program, Operation.Begins now s program .irrigationUpdate → ZonesFree program s) :
    ZoneInvariant (s.controlIrrigationTempUpdate now) := by
  have step := updateStep now s
  generalize s.controlIrrigationTempUpdate now = t at step ⊢
  cases step with
  | idle | warming | cooling => exact inv
  | begins status expired =>
      exact inv.beginProgram status fun running => free _ ⟨status, expired, running, rfl⟩
  | runs status => exact inv.updateProgram status
  | stops => exact inv.forceStop
  | shuts status => exact inv.shutDown status

omit [FlowArithmetic] in
/-- No control flow writes a group valve, and only the garden's own writes the garden valve. -/
theorem controlFlowDevice_zone (flow : Fin 6) :
    controlFlowDevice flow ∉ groupValves ∧ (controlFlowDevice flow = 13 ↔ flow = 5) := by
  revert flow
  decide

/-- The group valves are as they were, and the garden valve still needs its flow. -/
theorem controlFlowUpdate_zones (now : Nat) (garden : s.IsOn 13 → s.FlowActive 5) :
    (∀ valve ∈ groupValves, (s.controlFlowUpdate now).IsOn valve → s.IsOn valve) ∧
      ((s.controlFlowUpdate now).IsOn 13 → (s.controlFlowUpdate now).FlowActive 5) := by
  have toggled : ∀ (device : Fin 15) (isActive : Flag) (t : Controller),
      device ∉ groupValves →
      (∀ valve ∈ groupValves, t.IsOn valve → s.IsOn valve) →
      ∀ valve ∈ groupValves, (t.deviceToggle now device isActive).IsOn valve → s.IsOn valve := by
    intro device isActive t other before valve listed on
    rw [deviceToggle_isOn] at on
    split at on
    · rename_i same
      exact absurd (same ▸ listed) other
    · exact before valve listed on
  refine controlFlowUpdate_preserves now
    (fun t => (∀ valve ∈ groupValves, t.IsOn valve → s.IsOn valve) ∧
      (t.IsOn 13 → t.FlowActive 5)) ?_ ?_ ?_ ?_ ?_ ⟨fun _ _ on => on, garden⟩
  · rintro flow t ⟨before, own⟩ _ _
    refine ⟨fun valve listed on => before valve listed (controlFlowStop_isOn now flow t on).2,
      fun on => ?_⟩
    obtain ⟨other, was⟩ := controlFlowStop_isOn now flow t on
    refine (controlFlowStop_flowActive now flow t 5).mpr ⟨?_, own was⟩
    rintro rfl
    exact other rfl
  · rintro flow isActive t ⟨before, own⟩ ⟨running, _⟩ _
    refine ⟨toggled _ isActive t (controlFlowDevice_zone flow).1 before, fun on => ?_⟩
    rw [deviceToggle_isOn] at on
    rw [deviceToggle_flowActive]
    split at on
    · rename_i same
      rw [(controlFlowDevice_zone flow).2.mp same.symm] at running
      exact running
    · exact own on
  · rintro t ⟨before, own⟩ _
    exact ⟨toggled 3 1 t (by decide) before, by simpa using own⟩
  · rintro isActive t ⟨before, own⟩ _
    exact ⟨toggled 9 isActive t (by decide) before, by simpa using own⟩
  · rintro t u ⟨before, own⟩ detection
    refine ⟨fun valve listed on => before valve listed ((detection.isOn_iff valve).mp on),
      fun on => ?_⟩
    exact (detection.flowActive_iff 5).mpr (own ((detection.isOn_iff 13).mp on))

/-- Every operation that leaves the zones to the machine keeps the invariant. -/
theorem run {operation : Operation} (inv : ZoneInvariant s) (alone : operation.LeavesZonesAlone)
    (free : ∀ program, operation.Begins now s program → ZonesFree program s) :
    ZoneInvariant (operation.run now s) := by
  by_cases drives : operation.DrivesMachine
  · cases operation with
    | start program isCleaning =>
        by_cases ready : s.irrigation.status = .ready
        · exact start_ready program isCleaning alone ready (free program ⟨ready, rfl⟩) inv.garden
        · have assigned : ZoneInvariant (s.startAssign program isCleaning) :=
            inv.startAssign alone ready
          change ZoneInvariant (s.controlIrrigationTempStart now program isCleaning)
          rw [start_of_not_ready now s program isCleaning ready]
          exact assigned.prepareGenerator ready
    | forceStop => exact inv.forceStop
    | resume =>
        change ZoneInvariant (s.controlIrrigationTempResume now)
        by_cases running : s.irrigation.isStopped = 0
        · rw [resume_of_not_stopped now s running]
          exact inv
        · have elsewhere : s.irrigation.status ≠ .ready := by
            rcases inv.resting running with finished | preparing
            · simp [finished]
            · simp [preparing]
          rw [resume_of_not_ready now s running elsewhere]
          exact inv.prepareGenerator elsewhere
    | irrigationUpdate => exact inv.update free
    | _ => exact drives.elim
  · have same := machineKept drives now s
    have still : ∀ t, SensorsOnly s t → MachineKept s.irrigation t.irrigation →
        ZoneInvariant t := fun t sensors same =>
      inv.frame same (fun valve _ => (sensors.isOn_iff valve).mp) (sensors.flowActive_iff 5).mp
        fun on => (sensors.flowActive_iff 5).mpr (inv.garden ((sensors.isOn_iff 13).mp on))
    cases operation with
    | start | forceStop | resume | irrigationUpdate => exact absurd trivial drives
    | faultyDetectionToggle => exact inv.frame same (fun _ _ => id) id inv.garden
    | assign setting =>
        exact inv.frame same (fun valve _ => (s.assign_isOn setting valve).mp)
          (s.assign_flowActive setting 5).mp
          fun on =>
            (s.assign_flowActive setting 5).mpr (inv.garden ((s.assign_isOn setting 13).mp on))
    | flowStart flow volume time =>
        have flows := controlFlowStart_flowActive now flow s volume time 5
        exact inv.frame same (fun _ _ => id)
          (fun active => (flows.mp active).resolve_left (Ne.symm alone))
          fun on => flows.mpr (.inr (inv.garden on))
    | flowStop flow =>
        have flows := controlFlowStop_flowActive now flow s 5
        refine inv.frame same (fun valve _ on => (controlFlowStop_isOn now flow s on).2)
          (fun active => (flows.mp active).2) fun on => flows.mpr ?_
        obtain ⟨other, was⟩ := controlFlowStop_isOn now flow s on
        refine ⟨?_, inv.garden was⟩
        rintro rfl
        exact other rfl
    | flowPause flow isPause =>
        have flows := controlFlowPause_flowActive now flow s isPause 5
        exact inv.frame same (fun valve _ on => controlFlowPause_isOn now flow s on) flows.mp
          fun on => flows.mpr (inv.garden (controlFlowPause_isOn now flow s on))
    | deviceToggle device isActive =>
        obtain ⟨other, garden⟩ := alone
        refine inv.frame same ?_ id ?_
        · intro valve listed on
          rcases eq_or_ne valve device with same | different
          · exact absurd (same ▸ listed) other
          · rwa [Operation.run, deviceToggle_isOn, if_neg different] at on
        · intro on
          rw [Operation.run, deviceToggle_isOn, if_neg (Ne.symm garden)] at on
          exact inv.garden on
    | deviceUpdate =>
        exact inv.frame same (fun valve _ => (deviceUpdate_isOn now valve s).mp)
          (deviceUpdate_flowActive now 5 s).mp
          fun on => (deviceUpdate_flowActive now 5 s).mpr
            (inv.garden ((deviceUpdate_isOn now 13 s).mp on))
    | pulsesTotalSet sensor pulses => exact still _ (.sensorFlowPulsesTotalSet sensor pulses s) same
    | sensorInterrupt sensor => exact still _ (.sensorFlowInterrupt sensor s) same
    | sensorFlowUpdate => exact still _ (.sensorFlowUpdate now s) same
    | sensorPressureUpdate readings => exact still _ (.sensorPressureUpdate now readings s) same
    | controlFlowUpdate =>
        obtain ⟨valves, garden⟩ := controlFlowUpdate_zones now inv.garden
        exact inv.frame same valves (controlFlowUpdate_flowActive now) garden

end ZoneInvariant

/-- All four zone valves. -/
def zoneValves : List (Fin 15) := 13 :: groupValves

section

variable [FlowArithmetic] {history : List (Step Operation)}

/-- The steps of a run in which a program is only begun with its zones free. -/
def zoneGuard (prior : List (Step Operation)) (step : Step Operation) : Prop :=
  step.operation.LeavesZonesAlone ∧
    ∀ program, step.operation.Begins step.now (controller.after boot prior) program →
      ZonesFree program (controller.after boot prior)

theorem zoneInvariant_of_admitted (admitted : Machine.Admitted zoneGuard setupTime history) :
    ZoneInvariant (controller.after boot history) :=
  admitted.invariant (fun _ => ZoneInvariant) .boot
    fun _ _ inv _ guarded => inv.run guarded.1 guarded.2

/-- At most one zone valve is open after every step, and no group valve in `FINISHED`. -/
theorem one_zone_at_a_time (admitted : Machine.Admitted zoneGuard setupTime history) :
    let s := controller.after boot history
    (∀ first ∈ zoneValves, ∀ second ∈ zoneValves, s.IsOn first → s.IsOn second →
      first = second) ∧
    (s.irrigation.status = .finished → ∀ valve ∈ groupValves, ¬ s.IsOn valve) := by
  intro s
  have inv : ZoneInvariant s := zoneInvariant_of_admitted admitted
  -- An open group valve means that the garden valve is closed.
  have apart : ∀ valve ∈ groupValves, s.IsOn valve → ¬ s.IsOn 13 := by
    intro valve listed on garden
    by_cases ready : s.irrigation.status = .ready
    · by_cases program : s.irrigation.program = .garden
      · obtain ⟨zone, own, only⟩ := inv.opened ready
        rw [program, Program.zones, List.mem_singleton] at own
        have same : valve = 13 := (only valve listed on).trans own
        rw [same] at listed
        exact absurd listed (by decide)
      · exact inv.idle ready program (inv.garden garden)
    · exact inv.closed ready valve listed on
  refine ⟨?_, fun finished => inv.closed (by simp [finished])⟩
  intro first firstListed second secondListed firstOn secondOn
  rcases List.mem_cons.mp firstListed with rfl | firstListed <;>
    rcases List.mem_cons.mp secondListed with rfl | secondListed
  · rfl
  · exact absurd firstOn (apart second secondListed secondOn)
  · exact absurd secondOn (apart first firstListed firstOn)
  · by_cases ready : s.irrigation.status = .ready
    · obtain ⟨zone, _, only⟩ := inv.opened ready
      exact (only first firstListed firstOn).trans (only second secondListed secondOn).symm
    · exact absurd firstOn (inv.closed ready first firstListed)

end

/-- A start of both groups whose warm-up is over. -/
def bothBegun : List (Step Operation) := [⟨9000, .irrigationUpdate⟩, ⟨4000, .start .both 0⟩]

theorem one_zone_at_a_time_bothBegun :
    (controller.after boot bothBegun).IsOn 10 ∧
      ∀ valve ∈ zoneValves, (controller.after boot bothBegun).IsOn valve → valve = 10 := by
  have admitted : Machine.Admitted zoneGuard setupTime bothBegun := by
    refine ⟨⟨trivial, by decide, trivial, ?_⟩, by decide, trivial, ?_⟩
    · exact fun _ begins => absurd begins.1 (by decide)
    · rintro _ ⟨_, _, _, rfl⟩
      exact ⟨by decide, by decide⟩
  have open_ : (controller.after boot bothBegun).IsOn 10 := by decide
  exact ⟨open_, fun valve listed on =>
    (one_zone_at_a_time admitted).1 valve listed 10 (by decide) on open_⟩

/-- A start of the second group while the first one runs opens its valve beside the other. -/
theorem two_zones_open :
    let s := controller.after boot
      [⟨10000, .start .group2 0⟩, ⟨9000, .irrigationUpdate⟩, ⟨4000, .start .group1 0⟩]
    s.IsOn 10 ∧ s.IsOn 11 := by
  decide

end BlueberryIrrigation
