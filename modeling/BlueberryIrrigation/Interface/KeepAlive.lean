import BlueberryIrrigation.Interface.Supervision

/-!
# The pings keep the network up

A ping goes out every 5 s and the network is reset after 17 s of silence, so two pings in a row
may be lost. `Alive` bounds the time of the next ping by the pings that are still without an
answer; an update that finds it has never waited for 17 s.
-/

namespace BlueberryIrrigation

open Semantics

namespace Network

/-- The pings of these calls since the server was last heard, the oldest first. -/
def unanswered (prior : List NetworkCall) : List NetworkCall → List Nat
  | [] => []
  | .update now answers :: rest =>
      match afterCalls (rest ++ prior) with
      | .ok n =>
          if n.Hears now answers.arrived then []
          else if n.Pings now then unanswered prior rest ++ [answers.later]
          else unanswered prior rest
      | .error _ => unanswered prior rest
  | _ :: rest => unanswered prior rest

/-- What the loop and the server do for an update after these calls: the last packet has been
taken, the clock has moved by one gap at most, and of three pings without an answer the third is
younger than the latency. -/
structure Attended (gap latency connected : Nat) (prior rest : List NetworkCall) (now : Nat)
    (answers : LibraryAnswers) : Prop where
  taken : Memory.Allows (afterCalls (rest ++ prior)) fun n => n.isReceiveWait = 0
  later : clockAfter connected rest ≤ now
  ends : now ≤ answers.later
  paced : answers.later ≤ clockAfter connected rest + gap
  answered : ∀ third, (unanswered prior rest)[2]? = some third → now < third + latency

/-- The operator restarts nothing, and every update is attended. -/
def KeptAlive (gap latency connected : Nat) (prior : List NetworkCall) :
    List NetworkCall → Prop
  | [] => True
  | .update now answers :: rest =>
      KeptAlive gap latency connected prior rest ∧
        Attended gap latency connected prior rest now answers
  | .init _ _ :: _ | .restartHard _ :: _ | .restartSoft _ _ :: _ => False
  | .ipRemoteUpdate _ :: rest | .send _ _ :: rest | .packetTaken :: rest =>
      KeptAlive gap latency connected prior rest

/-- How long ago the counter shows a ping. -/
def pingAge (now : Nat) (n : Network) : Nat := (millis now - n.timePingSendLast).toNat

/-- An update up to one gap from now pings, or knows that the next ping is due by `due`. -/
def PingDueBy (gap due last : Nat) (n : Network) : Prop :=
  ∀ now, last ≤ now → now ≤ last + gap → 5000 ≤ n.pingAge now ∨ now + 5000 ≤ due + n.pingAge now

/-- The server was last heard at `life`, and every ping since has come in time. -/
structure Alive (gap last life due : Nat) (pings : List Nat) (n : Network) : Prop where
  status : n.status = .ready
  received : n.timeReceiveLast = millis life
  past : life ≤ last
  dueBy : n.PingDueBy gap due last
  fresh : last ≤ due + gap
  inTime : due ≤ life + (pings.length + 1) * (5000 + 2 * gap)
  third : ∀ third, pings[2]? = some third → third ≤ life + 15000 + 8 * gap

variable {gap latency last life due now later : Nat} {pings : List Nat} {n : Network}

/-- Silence is never reached. -/
theorem Alive.not_silent (alive : Alive gap last life due pings n)
    (short : 8 * gap + latency < 2000) (ordered : last ≤ now) (paced : now ≤ last + gap)
    (answered : ∀ third, pings[2]? = some third → now < third + latency) : ¬ n.Silent now := by
  have recent : now < life + 17000 := by
    by_cases few : pings.length ≤ 2
    · have most : (pings.length + 1) * (5000 + 2 * gap) ≤ 3 * (5000 + 2 * gap) :=
        Nat.mul_le_mul_right _ (by omega)
      have fresh := alive.fresh
      have inTime := alive.inTime
      omega
    · have inside : 2 < pings.length := by omega
      have third := List.getElem?_eq_getElem inside
      have sent := alive.third _ third
      have waited := answered _ third
      omega
  unfold Silent
  rw [alive.received, UInt32.not_le]
  exact (Clock.wait_pending_iff (alive.past.trans ordered) (by
    change _ < 2 ^ 32
    omega)).mpr recent

/-- A ping sent at `last` makes the next one due 5 s later. -/
theorem PingDueBy.pinged (short : gap < Clock.period) (sent : n.timePingSendLast = millis last) :
    n.PingDueBy gap (last + 5000) last := by
  intro now ordered close
  right
  have age : n.pingAge now = now - last := by
    unfold pingAge
    rw [sent, Clock.toNat_reading_sub ordered]
    exact Nat.mod_eq_of_lt (by omega)
  omega

/-- Without a ping the age goes on, and so does what is known of the next ping. -/
theorem PingDueBy.unpinged {after : Network} (short : 5000 + 2 * gap < Clock.period)
    (kept : after.timePingSendLast = n.timePingSendLast) (ordered : now ≤ later)
    (close : later ≤ now + gap) (young : n.pingAge now < 5000)
    (known : now + 5000 ≤ due + n.pingAge now) : after.PingDueBy gap due later := by
  intro next behind within
  right
  have age : after.pingAge next = n.pingAge now + (next - now) := by
    unfold pingAge at young ⊢
    rw [kept]
    change (Clock.reading now - n.timePingSendLast).toNat < 5000 at young
    exact Clock.toNat_sub_later (by omega) (by omega)
  omega

/-- The step lemma: an attended update hears or pings, and resets nothing. -/
theorem Alive.update {answers : LibraryAnswers} (alive : Alive gap last life due pings n)
    (short : 8 * gap + latency < 2000) (taken : n.isReceiveWait = 0) (ordered : last ≤ now)
    (ends : now ≤ answers.later) (paced : answers.later ≤ last + gap)
    (answered : ∀ third, pings[2]? = some third → now < third + latency) :
    Memory.Allows (n.internetUpdate now answers.chip) fun after =>
      after.resetPins = n.resetPins ∧ ∃ life due, Alive gap answers.later life due
        (if n.Hears now answers.arrived then []
          else if n.Pings now then pings ++ [answers.later] else pings) after := by
  have recent := alive.not_silent short ordered (ends.trans paced) answered
  have attends : n.Attends now := ⟨alive.status, recent, taken⟩
  have period : 10000 < Clock.period := by decide
  have turn := updateTurn now answers n
  generalize n.internetUpdateEvents now answers = events at turn
  generalize n.internetUpdate now answers.chip = result at turn
  cases turn with
  | waits status | raises status => simp [alive.status] at status
  | restarts due => exact absurd (alive.status.symm.trans due.1) (by decide)
  | lowers _ silent => exact absurd silent recent
  | listens _ _ transfers listened =>
      refine listened.mono fun after heard => ⟨heard.resetPins, ?_⟩
      have status := heard.status.trans alive.status
      have received := heard.timeReceiveLast
      have sent := heard.timePingSendLast
      have fresh := alive.fresh
      have inTime := alive.inTime
      by_cases pinging : n.Pings now
      · rw [if_pos pinging] at sent
        have dueBy := PingDueBy.pinged (by omega : gap < Clock.period) sent
        by_cases hears : n.Hears now answers.arrived
        · rw [if_pos hears] at received ⊢
          exact ⟨answers.later, answers.later + 5000, status, received, Nat.le_refl _, dueBy,
            by omega, by simp, by simp⟩
        · rw [if_neg hears] at received ⊢
          rw [if_pos pinging]
          refine ⟨life, answers.later + 5000, status, received.trans alive.received,
            alive.past.trans (ordered.trans ends), dueBy, by omega, ?_, fun third sought => ?_⟩
          · rw [List.length_append, List.length_singleton, Nat.succ_mul]
            omega
          · rw [List.getElem?_append] at sought
            split at sought
            · exact alive.third third sought
            · next outside =>
                have two : pings.length = 2 := by
                  have inside := (List.getElem?_eq_some_iff.mp sought).1
                  rw [List.length_singleton] at inside
                  omega
                rw [two] at sought inTime
                cases sought
                omega
      · rw [if_neg pinging] at sent
        have young : n.pingAge now < 5000 := by
          by_contra old
          exact pinging ⟨attends, UInt32.le_iff_toNat_le.mpr (Nat.not_lt.mp old)⟩
        have known : now + 5000 ≤ due + n.pingAge now := by
          rcases alive.dueBy now ordered (ends.trans paced) with old | known
          · exact absurd old (Nat.not_le.mpr young)
          · exact known
        have close : answers.later ≤ now + gap := by omega
        by_cases hears : n.Hears now answers.arrived
        · rw [if_pos hears] at received ⊢
          have dueBy := PingDueBy.unpinged (by omega) sent ends close young
            (Nat.le_add_right (now + 5000) _)
          exact ⟨answers.later, now + 5000, status, received, Nat.le_refl _, dueBy, by omega,
            by simp; omega, by simp⟩
        · rw [if_neg hears] at received ⊢
          rw [if_neg pinging]
          have dueBy := PingDueBy.unpinged (by omega) sent ends close young known
          exact ⟨life, due, status, received.trans alive.received,
            alive.past.trans (ordered.trans ends), dueBy, by omega, inTime, alive.third⟩

theorem Alive.beside {after : Network} (alive : Alive gap last life due pings n)
    (status : after.status = n.status) (received : after.timeReceiveLast = n.timeReceiveLast)
    (pinged : after.timePingSendLast = n.timePingSendLast) :
    Alive gap last life due pings after where
  status := status.trans alive.status
  received := received.trans alive.received
  past := alive.past
  dueBy now ordered close := by
    rw [pingAge, pinged]
    exact alive.dueBy now ordered close
  fresh := alive.fresh
  inTime := alive.inTime
  third := alive.third

theorem unanswered_update {now : Nat} {answers : LibraryAnswers} {prior rest : List NetworkCall}
    (reached : afterCalls (rest ++ prior) = .ok n) :
    unanswered prior (.update now answers :: rest) =
      if n.Hears now answers.arrived then []
      else if n.Pings now then unanswered prior rest ++ [answers.later]
      else unanswered prior rest := by
  rw [unanswered, reached]

/-- The run lemma. -/
theorem alive_run {connected : Nat} {prior turns : List NetworkCall} {start : Network}
    (short : 8 * gap + latency < 2000) (begun : afterCalls prior = .ok start)
    (ready : start.status = .ready) (stamped : start.timeReceiveLast = millis connected)
    (kept : KeptAlive gap latency connected prior turns) :
    Memory.Allows (afterCalls (turns ++ prior)) fun n =>
      n.resetPins = start.resetPins ∧ ∃ life due,
        Alive gap (clockAfter connected turns) life due (unanswered prior turns) n := by
  induction turns with
  | nil =>
      rw [List.nil_append, begun]
      refine (Memory.allows_ok start).mpr ⟨rfl, connected, connected + gap + 5000, ready, stamped,
        Nat.le_refl connected, fun now ordered close => .inr ?_, ?_, ?_, by simp [unanswered]⟩
      · change connected ≤ now at ordered
        change now ≤ connected + gap at close
        omega
      · change connected ≤ _
        omega
      · simp only [unanswered, List.length_nil]
        omega
  | cons call rest ih =>
      rw [List.cons_append, afterCalls, Memory.allows_bind]
      intro n reached
      cases call with
      | init | restartHard | restartSoft => exact kept.elim
      | ipRemoteUpdate answers =>
          obtain ⟨pins, life, due, alive⟩ := ih kept n reached
          refine (Memory.allows_ok _).mpr ?_
          unfold internetIpRemoteUpdate
          split
          · exact ⟨pins, life, due, alive⟩
          · split <;> exact ⟨pins, life, due, alive.beside rfl rfl rfl⟩
      | send bytes answers =>
          obtain ⟨pins, life, due, alive⟩ := ih kept n reached
          intro after sent
          have stamps := sendBody_stamps _ bytes n after sent
          have outgoing := (Outgoing.sendBody _ bytes n after sent).pinKept
          exact ⟨outgoing.resetPins.trans pins, life, due,
            alive.beside outgoing.status stamps.timeReceiveLast stamps.timePingSendLast⟩
      | packetTaken =>
          obtain ⟨pins, life, due, alive⟩ := ih kept n reached
          exact (Memory.allows_ok _).mpr ⟨pins, life, due, alive.beside rfl rfl rfl⟩
      | update now answers =>
          obtain ⟨earlier, attended⟩ := kept
          obtain ⟨pins, life, due, alive⟩ := ih earlier n reached
          rw [unanswered_update reached]
          exact (alive.update short (attended.taken n reached) attended.later attended.ends
            attended.paced attended.answered).mono fun after alive =>
              ⟨alive.1.trans pins, alive.2⟩

/-- From the moment the server is heard, as long as the loop comes round in time, each packet is
taken, of three pings in a row one is answered and nobody restarts the chip, the network stays
READY and the reset pin is not switched in any run that leaves no array, whatever else arrives and
whatever else is sent. -/
theorem kept_alive {connected : Nat} {prior turns : List NetworkCall} {start : Network}
    (short : 8 * gap + latency < 2000) (begun : afterCalls prior = .ok start)
    (ready : start.status = .ready) (stamped : start.timeReceiveLast = millis connected)
    (kept : KeptAlive gap latency connected prior turns) :
    Memory.Allows (afterCalls (turns ++ prior)) fun n =>
      n.status = .ready ∧ n.resetPins = start.resetPins :=
  (alive_run short begun ready stamped kept).mono fun _ run => by
    obtain ⟨pins, life, due, alive⟩ := run
    exact ⟨alive.status, pins⟩

/-! ## Lost pings -/

/-- With nothing to hear and no ping due an update polls in vain. -/
theorem internetUpdate_quiet {answers : LibraryAnswers} (attends : n.Attends now)
    (unpinged : ¬ n.Pings now) (nothing : answers.arrived = none) :
    n.internetUpdate now answers.chip = .ok (n.parsePacket none) := by
  obtain ⟨ready, recent, taken⟩ := attends
  have early : ¬ internetTimePingSendInterval ≤ millis now - n.timePingSendLast :=
    fun due => unpinged ⟨⟨ready, recent, taken⟩, due⟩
  unfold Silent at recent
  unfold internetUpdate internetPing internetPoll
  simp only [ready, if_neg recent, taken, ne_eq, not_true_eq_false, if_false, if_neg early]
  rw [show answers.chip.arrived = none from nothing]
  rfl

/-- What has just been polled in vain is polled so again. -/
theorem internetUpdate_polled {answers : LibraryAnswers} {after : Network}
    (attends : n.Attends now) (nothing : answers.arrived = none)
    (done : n.internetUpdate now answers.chip = .ok after) : after.parsePacket none = after := by
  obtain ⟨ready, recent, taken⟩ := attends
  unfold Silent at recent
  unfold internetUpdate at done
  simp only [ready, if_neg recent, taken, ne_eq, not_true_eq_false, if_false] at done
  cases ping : n.internetPing now answers.chip with
  | error outside =>
      rw [ping] at done
      cases done
  | ok sent =>
      rw [ping, show answers.chip.arrived = none from nothing] at done
      obtain rfl := Except.ok.inj done
      rfl

/-- The calls keep the network alive and lead to `n` at this time, with these pings unanswered. -/
structure Waits (gap latency connected : Nat) (prior turns : List NetworkCall) (clock : Nat)
    (pings : List Nat) (n : Network) : Prop where
  kept : KeptAlive gap latency connected prior turns
  reached : afterCalls (turns ++ prior) = .ok n
  clock : clockAfter connected turns = clock
  pings : unanswered prior turns = pings

section

variable {connected clock : Nat} {prior turns : List NetworkCall}

/-- With fewer than three pings unanswered an update that comes in time is attended. -/
theorem Waits.attended {answers : LibraryAnswers}
    (waits : Waits gap latency connected prior turns clock pings n) (few : pings.length ≤ 2)
    (taken : n.isReceiveWait = 0) (ordered : clock ≤ now) (ends : now ≤ answers.later)
    (paced : answers.later ≤ clock + gap) :
    Attended gap latency connected prior turns now answers := by
  obtain ⟨-, reached, rfl, sent⟩ := waits
  refine ⟨?_, ordered, ends, paced, fun third listed => ?_⟩
  · rw [reached]
    exact (Memory.allows_ok n).mpr taken
  · rw [sent] at listed
    have inside := (List.getElem?_eq_some_iff.mp listed).1
    omega

theorem not_hears_none : ¬ n.Hears now none := by
  rintro ⟨-, datagram, arrived, -⟩
  exact absurd arrived (Option.not_mem_none datagram)

/-- A ping is lost. -/
theorem Waits.ping {after : Network}
    (waits : Waits gap latency connected prior turns clock pings n) (few : pings.length ≤ 2)
    (due : n.Pings now) (ordered : clock ≤ now) (paced : now ≤ clock + gap)
    (sent : n.internetUpdate now (connectedAt now).chip = .ok after) :
    Waits gap latency connected prior (.update now (connectedAt now) :: turns) now
      (pings ++ [now]) after where
  kept := ⟨waits.kept, waits.attended few due.1.2.2 ordered (Nat.le_refl now) paced⟩
  reached := by
    rw [List.cons_append, afterCalls, waits.reached]
    exact sent
  clock := rfl
  pings := by
    rw [unanswered_update waits.reached, waits.pings]
    exact (if_neg not_hears_none).trans (if_pos due)

/-- Updates every `gap` from `since` on, in which nothing arrives. -/
def quietTurns (gap since : Nat) : Nat → List NetworkCall
  | 0 => []
  | count + 1 =>
      .update (since + (count + 1) * gap) (connectedAt (since + (count + 1) * gap)) ::
        quietTurns gap since count

/-- Until the next ping is due they change nothing. -/
theorem Waits.quiet (waits : Waits gap latency connected prior turns clock pings n)
    (few : pings.length ≤ 2) (polled : n.parsePacket none = n) (count : Nat)
    (quiet : ∀ turn < count, n.Attends (clock + (turn + 1) * gap) ∧
      ¬ n.Pings (clock + (turn + 1) * gap)) :
    Waits gap latency connected prior (quietTurns gap clock count ++ turns) (clock + count * gap)
      pings n := by
  induction count with
  | zero =>
      rw [Nat.zero_mul, Nat.add_zero]
      exact waits
  | succ count ih =>
      have before := ih fun turn less => quiet turn (by omega)
      obtain ⟨attends, unpinged⟩ := quiet count (by omega)
      have next := Nat.add_one_mul count gap
      refine ⟨⟨before.kept, before.attended few attends.2.2 ?_ (Nat.le_refl _) ?_⟩, ?_, rfl, ?_⟩
      · omega
      · change clock + (count + 1) * gap ≤ _
        omega
      · rw [quietTurns, List.cons_append, List.cons_append, afterCalls, before.reached]
        exact (internetUpdate_quiet attends unpinged rfl).trans (congrArg Except.ok polled)
      · rw [quietTurns, List.cons_append, unanswered_update before.reached, before.pings]
        exact (if_neg not_hears_none).trans (if_neg unpinged)

end

/-- The network after an update at this time in which nothing arrives. -/
def pinged (now : Nat) (n : Network) : Network :=
  (n.internetUpdate now (connectedAt now).chip).toOption.getD n

theorem pinged_eq (inside : (n.internetUpdate now (connectedAt now).chip).toOption.isSome) :
    n.internetUpdate now (connectedAt now).chip = .ok (pinged now n) := by
  unfold pinged
  cases result : n.internetUpdate now (connectedAt now).chip with
  | ok after => rfl
  | error outside =>
      rw [result] at inside
      cases inside

theorem pinged_polled (attends : n.Attends now)
    (inside : (n.internetUpdate now (connectedAt now).chip).toOption.isSome) :
    (pinged now n).parsePacket none = pinged now n :=
  internetUpdate_polled attends rfl (pinged_eq inside)

/-- The server answers a ping. -/
def pingAnswered (now : Nat) : LibraryAnswers :=
  { connectedAt now with
    arrived := some ⟨1, internetRemotePort,
      [wrapperByteStart, 3, serverId, internetCommandPing, internetCommandPingValueAnswer,
        wrapperByteEnd], by simp⟩ }

/-- Connected at 8 s, with an update every 200 ms: the pings of 8 s and 13 s are lost, and the one
of 18 s is answered 100 ms later. -/
theorem kept_alive_third :
    let prior : List NetworkCall := [.init 3000 (connectedAt 7950)]
    let pinging : List NetworkCall :=
      .update 18000 (connectedAt 18000) :: (quietTurns 200 13000 24 ++
        .update 13000 (connectedAt 13000) :: (quietTurns 200 8000 24 ++
          [.update 8000 (connectedAt 8000)]))
    let turns := .update 18100 (pingAnswered 18100) :: pinging
    unanswered prior pinging = [8000, 13000, 18000] ∧ unanswered prior turns = [] ∧
      Memory.Allows (afterCalls (turns ++ prior)) fun n =>
        n.status = .ready ∧ n.resetPins = [true] := by
  intro prior pinging turns
  let start := unset.internetInit 3000 (connectedAt 7950).chip
  let first := pinged 8000 start
  let second := pinged 13000 first
  let third := pinged 18000 second
  have begun : Waits 200 399 7950 prior [] 7950 [] start := ⟨trivial, rfl, rfl, rfl⟩
  have one : Waits 200 399 7950 prior _ 8000 [8000] first :=
    begun.ping (by decide) (by decide +kernel) (by decide) (by decide)
      (pinged_eq (by decide +kernel))
  have waited : Waits 200 399 7950 prior _ 12800 [8000] first :=
    one.quiet (by decide) (pinged_polled (by decide +kernel) (by decide +kernel)) 24
      (by decide +kernel)
  have two : Waits 200 399 7950 prior _ 13000 [8000, 13000] second :=
    waited.ping (by decide) (by decide +kernel) (by decide) (by decide)
      (pinged_eq (by decide +kernel))
  have again : Waits 200 399 7950 prior _ 17800 [8000, 13000] second :=
    two.quiet (by decide) (pinged_polled (by decide +kernel) (by decide +kernel)) 24
      (by decide +kernel)
  have three : Waits 200 399 7950 prior pinging 18000 [8000, 13000, 18000] third :=
    again.ping (by decide) (by decide +kernel) (by decide) (by decide)
      (pinged_eq (by decide +kernel))
  have heard : third.Hears 18100 (pingAnswered 18100).arrived := by decide +kernel
  have attended : Attended 200 399 7950 prior pinging 18100 (pingAnswered 18100) := by
    refine ⟨?_, ?_, Nat.le_refl _, ?_, fun last sent => ?_⟩
    · rw [three.reached]
      exact (Memory.allows_ok third).mpr heard.1.2.2
    · rw [three.clock]
      decide
    · rw [three.clock]
      decide
    · rw [three.pings] at sent
      obtain rfl := Option.some.inj sent
      decide
  refine ⟨three.pings, ?_, @kept_alive 200 399 7950 prior turns start (by decide) rfl rfl rfl
    ⟨three.kept, attended⟩⟩
  rw [unanswered_update three.reached]
  exact if_pos heard

end Network
end BlueberryIrrigation
