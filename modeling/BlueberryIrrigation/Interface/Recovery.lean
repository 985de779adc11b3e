import BlueberryIrrigation.Interface.Supervision
import BlueberryIrrigation.Semantics.Timetable

/-!
# The network comes back

From a sign of life to the next soft restart `internet_update` goes through three waits. Over
polls they are a timetable, which the statuses and the stamps follow from whatever state the first
update finds. So a silent network is restarted within the waits and the polls between them.
-/

namespace BlueberryIrrigation

open Semantics

/-- What `internet_update` waits for. -/
inductive NetworkWait where
  | silence
  | reset
  | settling
deriving DecidableEq, Repr

namespace NetworkCall

/-- The call does not restart the chip by itself. -/
def Unforced : NetworkCall → Prop
  | .init _ _ | .restartHard _ | .restartSoft _ _ => False
  | .update _ _ | .ipRemoteUpdate _ | .send _ _ | .packetTaken => True

/-- When the call polls the network. -/
def poll : NetworkCall → Option Nat
  | .update now _ => some now
  | _ => none

end NetworkCall

namespace Network

/-- The last wait of a hard restart. -/
def settling : List (Planned NetworkWait) := [⟨.settling, 3000⟩]

/-- The waits of a hard restart. -/
def resetting : List (Planned NetworkWait) := ⟨.reset, 3000⟩ :: settling

/-- The network is in the wait that the timetable is in. -/
inductive Awaits (table : Timetable NetworkWait) (n : Network) : Prop
  | silence {duration : Nat} (listening : n.Listening)
      (pending : table.pending = ⟨.silence, duration⟩ :: resetting)
      (counts : (millis table.since - n.timeReceiveLast).toNat + duration = 17000)
  | reset {duration : Nat} (status : n.status = .restarting)
      (pending : table.pending = ⟨.reset, duration⟩ :: settling)
      (counts : (millis table.since - n.timeRestartLast).toNat + duration = 3000)
  | settling {duration : Nat} (status : n.status = .initializing)
      (pending : table.pending = [⟨.settling, duration⟩])
      (counts : (millis table.since - n.timeRestartLast).toNat + duration = 3000)

/-- A wait that counts from here is over when its duration is. -/
theorem pending_iff {since now duration : Nat} (wait : UInt32) {stamp : UInt32}
    (ordered : since ≤ now)
    (counts : (millis since - stamp).toNat + duration = wait.toNat)
    (close : wait.toNat + (now - since) < Clock.period) :
    millis now - stamp < wait ↔ now < since + duration := by
  change (Clock.reading since - stamp).toNat + duration = wait.toNat at counts
  rw [UInt32.lt_iff_toNat_lt, Clock.toNat_sub_later ordered (by omega)]
  omega

/-- An event at this time starts the next wait. -/
theorem counts_from (now wait : Nat) : (millis now - millis now).toNat + wait = wait := by
  simp

variable {table : Timetable NetworkWait} {now gap : Nat} {answers : LibraryAnswers} {n : Network}

/-- The step lemma: an update that hears nothing and does not restart polls the timetable. -/
theorem Awaits.update (awaits : Awaits table n) (ordered : table.since ≤ now)
    (age : ∀ planned rest, table.pending = planned :: rest →
      now - table.since ≤ planned.duration + gap)
    (short : 34000 + gap < Clock.period) (unheard : ¬ n.Hears now answers.arrived)
    (unrestarted : ¬ n.Restarts now) :
    Memory.Allows (n.internetUpdate now answers.chip) (Awaits (table.poll now)) := by
  have turn := updateTurn now answers n
  generalize n.internetUpdateEvents now answers = events at turn
  generalize n.internetUpdate now answers.chip = result at turn
  cases awaits with
  | silence listening pending counts =>
      have close := age _ _ pending
      dsimp only at close
      have expiry := pending_iff internetTimeReceiveLastMax ordered counts (by
        change 17000 + _ < _
        omega)
      cases turn with
      | waits status | raises status => rcases listening with other | other <;> simp_all
      | restarts due => exact absurd due unrestarted
      | lowers _ silent =>
          have late : ¬ now < table.since + _ := fun early =>
            absurd (expiry.mpr early) (UInt32.not_lt.mpr silent)
          rw [Timetable.poll_over pending late]
          exact (Memory.allows_ok _).mpr (.reset rfl rfl (counts_from now 3000))
      | listens _ recent transfers listened =>
          have early := expiry.mp (UInt32.not_le.mp recent)
          rw [Timetable.poll_waiting pending early]
          refine listened.mono fun after heard => .silence ?_ pending ?_
          · rw [Listening, heard.status]
            exact listening
          · rw [heard.timeReceiveLast, if_neg unheard]
            exact counts
  | reset status pending counts =>
      have close := age _ _ pending
      dsimp only at close
      have expiry := pending_iff internetTimeRestartWait ordered counts (by
        change 3000 + _ < _
        omega)
      cases turn with
      | waits _ waiting =>
          rw [Timetable.poll_waiting pending (expiry.mp (not_not.mp waiting))]
          exact (Memory.allows_ok n).mpr (.reset status pending counts)
      | raises _ waited =>
          rw [Timetable.poll_over pending fun early => waited (expiry.mpr early)]
          exact (Memory.allows_ok _).mpr (.settling rfl rfl (counts_from now 3000))
      | restarts due => exact absurd due unrestarted
      | lowers listening | listens listening => rcases listening with other | other <;> simp_all
  | settling status pending counts =>
      have close := age _ _ pending
      dsimp only at close
      have expiry := pending_iff internetTimeRestartWait ordered counts (by
        change 3000 + _ < _
        omega)
      cases turn with
      | waits _ waiting =>
          rw [Timetable.poll_waiting pending (expiry.mp (not_not.mp waiting))]
          exact (Memory.allows_ok n).mpr (.settling status pending counts)
      | raises other => simp_all
      | restarts due => exact absurd due unrestarted
      | lowers listening | listens listening => rcases listening with other | other <;> simp_all

/-- Of a wait that is not over, the rest is to come. -/
theorem counts_rest {now : Nat} {wait stamp : UInt32} (waiting : millis now - stamp < wait) :
    (millis now - stamp).toNat + (wait.toNat - (millis now - stamp).toNat) = wait.toNat :=
  Nat.add_sub_cancel' (Nat.le_of_lt (UInt32.lt_iff_toNat_lt.mp waiting))

/-- Whatever the first update finds, it leaves the network in some wait. -/
theorem awaits_first (gap : Nat) (unheard : ¬ n.Hears now answers.arrived)
    (unrestarted : ¬ n.Restarts now) :
    Memory.Allows (n.internetUpdate now answers.chip) fun after =>
      ∃ plan, Timetable.budget gap plan ≤ 23000 + 3 * gap ∧ Awaits (.start plan now) after := by
  have turn := updateTurn now answers n
  generalize n.internetUpdateEvents now answers = events at turn
  generalize n.internetUpdate now answers.chip = result at turn
  have settle {duration : Nat} (most : duration ≤ 3000) :
      Timetable.budget gap [(⟨.settling, duration⟩ : Planned NetworkWait)] ≤
        23000 + 3 * gap := by
    simp only [Timetable.budget_cons, Timetable.budget_nil]
    omega
  have reset {duration : Nat} (most : duration ≤ 3000) :
      Timetable.budget gap (⟨.reset, duration⟩ :: settling) ≤ 23000 + 3 * gap := by
    simp only [settling, Timetable.budget_cons, Timetable.budget_nil]
    omega
  cases turn with
  | waits status waiting =>
      have counts := counts_rest (not_not.mp waiting)
      have most : (3000 : UInt32).toNat - (millis now - n.timeRestartLast).toNat ≤ 3000 :=
        Nat.sub_le _ _
      refine (Memory.allows_ok n).mpr ?_
      rcases status with status | status
      · exact ⟨_, reset most, .reset status rfl counts⟩
      · exact ⟨_, settle most, .settling status rfl counts⟩
  | raises status waited =>
      exact (Memory.allows_ok _).mpr
        ⟨_, settle (Nat.le_refl 3000), .settling rfl rfl (counts_from now 3000)⟩
  | restarts due => exact absurd due unrestarted
  | lowers listening silent =>
      exact (Memory.allows_ok _).mpr
        ⟨_, reset (Nat.le_refl 3000), .reset rfl rfl (counts_from now 3000)⟩
  | listens listening recent transfers listened =>
      refine listened.mono fun after heard =>
        ⟨⟨.silence, 17000 - (millis now - n.timeReceiveLast).toNat⟩ :: resetting, ?_,
          .silence ?_ rfl ?_⟩
      · simp only [resetting, settling, Timetable.budget_cons, Timetable.budget_nil]
        omega
      · rw [Listening, heard.status]
        exact listening
      · rw [heard.timeReceiveLast, if_neg unheard]
        exact counts_rest (UInt32.not_le.mp recent)

/-- What is sent, looked up or taken leaves the wait as it is. -/
theorem Awaits.beside {after : Network} (awaits : Awaits table n)
    (status : after.status = n.status) (received : after.timeReceiveLast = n.timeReceiveLast)
    (restart : after.timeRestartLast = n.timeRestartLast) : Awaits table after := by
  cases awaits with
  | silence listening pending counts =>
      exact .silence (by rwa [Listening, status]) pending (by rwa [received])
  | reset phase pending counts =>
      exact .reset (status.trans phase) pending (by rwa [restart])
  | settling phase pending counts =>
      exact .settling (status.trans phase) pending (by rwa [restart])

/-! ## A silent run -/

/-- Behind `prior`, no update among these calls hears the server. -/
def Unheard (prior calls : List NetworkCall) : Prop :=
  ∀ earlier now answers n, .update now answers :: earlier <:+ calls → prior <:+ earlier →
    afterCalls earlier = .ok n → ¬ n.Hears now answers.arrived

/-- Behind `prior`, an update among these calls has called `Ethernet.begin`. -/
def BeginsBehind (prior calls : List NetworkCall) : Prop :=
  ∃ earlier now answers n, .update now answers :: earlier <:+ calls ∧ prior <:+ earlier ∧
    afterCalls earlier = .ok n ∧
    ∃ succeeds, .call (.ethernetBegin succeeds) ∈ n.internetUpdateEvents now answers

/-- Until `Ethernet.begin` is called, the network is in the wait that the polls lead to. -/
theorem awaits_run {gap first : Nat} {answers : LibraryAnswers} {prior turns : List NetworkCall}
    (short : 34000 + gap < Clock.period) (unforced : ∀ call ∈ turns, call.Unforced)
    (paced : Timetable.Paced gap first (turns.filterMap NetworkCall.poll))
    (unheard : Unheard prior (turns ++ .update first answers :: prior))
    (unbegun : ¬ BeginsBehind prior (turns ++ .update first answers :: prior)) :
    Memory.Allows (afterCalls (turns ++ .update first answers :: prior)) fun n =>
      ∃ plan, Timetable.budget gap plan ≤ 23000 + 3 * gap ∧
        Awaits ((Timetable.start plan first).after (turns.filterMap NetworkCall.poll)) n := by
  induction turns with
  | nil =>
      rw [List.nil_append, afterCalls, Memory.allows_bind]
      intro n reached
      have restarts := (updateShows first answers n).restarts
      have quiet := unheard prior first answers n List.suffix_rfl List.suffix_rfl reached
      refine awaits_first gap quiet fun due => unbegun ?_
      refine ⟨prior, first, answers, n, List.suffix_rfl, List.suffix_rfl, reached, ?_⟩
      exact restarts.mpr due
  | cons call rest ih =>
      rw [List.forall_mem_cons] at unforced
      have further {calls : List NetworkCall} (suffix : calls <:+ rest ++ _) :
          calls <:+ call :: (rest ++ .update first answers :: prior) :=
        suffix.trans (List.suffix_cons call _)
      have before := ih unforced.2
        (by
          cases call with
          | update now answers => exact paced.1
          | _ => exact paced)
        (fun earlier now answers n among => unheard earlier now answers n (further among))
        (fun begins => by
          obtain ⟨earlier, now, answers, n, among, rest⟩ := begins
          exact unbegun ⟨earlier, now, answers, n, further among, rest⟩)
      rw [List.cons_append, afterCalls, Memory.allows_bind]
      intro n reached
      obtain ⟨plan, budget, awaits⟩ := before n reached
      cases call with
      | init | restartHard | restartSoft => exact unforced.1.elim
      | ipRemoteUpdate answers =>
          refine (Memory.allows_ok _).mpr ⟨plan, budget, ?_⟩
          unfold internetIpRemoteUpdate
          split
          · exact awaits
          · split <;> exact awaits.beside rfl rfl rfl
      | send bytes answers =>
          intro after sent
          have stamps := sendBody_stamps _ bytes n after sent
          have status := (Outgoing.sendBody _ bytes n after sent).status
          exact ⟨plan, budget,
            awaits.beside status stamps.timeReceiveLast stamps.timeRestartLast⟩
      | packetTaken =>
          exact (Memory.allows_ok _).mpr ⟨plan, budget, awaits.beside rfl rfl rfl⟩
      | update now taken =>
          have behind : prior <:+ rest ++ .update first answers :: prior :=
            (List.suffix_cons _ prior).trans (List.suffix_append rest _)
          have mute := unheard _ now taken n List.suffix_rfl behind reached
          have unrestarted : ¬ n.Restarts now := fun due => unbegun
            ⟨_, now, taken, n, List.suffix_rfl, behind, reached,
              (updateShows now taken n).restarts.mpr due⟩
          refine (awaits.update (Timetable.since_le paced)
            (fun _ _ pending => Timetable.age_le plan paced pending) short mute unrestarted).mono
            fun after polled => ⟨plan, budget, polled⟩

/-- Whatever state the network is in, and whatever the libraries answer: once updates that hear
nothing from the server have gone on for 23 s and three gaps between them, `internet_update` has
called `Ethernet.begin`. -/
theorem silent_network_restarted {gap first : Nat} {answers : LibraryAnswers}
    {prior turns : List NetworkCall} {n : Network} (positive : 0 < gap)
    (short : 34000 + gap < Clock.period) (unforced : ∀ call ∈ turns, call.Unforced)
    (paced : Timetable.Paced gap first (turns.filterMap NetworkCall.poll))
    (unheard : Unheard prior (turns ++ .update first answers :: prior))
    (late : first + 23000 + 3 * gap ≤
      Timetable.lastPoll first (turns.filterMap NetworkCall.poll))
    (reached : afterCalls (turns ++ .update first answers :: prior) = .ok n) :
    BeginsBehind prior (turns ++ .update first answers :: prior) := by
  by_contra unbegun
  obtain ⟨plan, budget, awaits⟩ := awaits_run short unforced paced unheard unbegun n reached
  have done := Timetable.finished_of_late plan positive paced
    (by omega)
  cases awaits with
  | silence _ pending | reset _ pending | settling _ pending => simp [done] at pending

/-- Connected at 3 s and never heard of again, with an update every 20 s. -/
theorem silent_restarted :
    BeginsBehind [.init 3000 (connectedAt 3000)]
      (([120000, 100000, 80000, 60000, 40000].map fun now => .update now (connectedAt now)) ++
        [.update 20000 (connectedAt 20000), .init 3000 (connectedAt 3000)]) := by
  have paced : Timetable.Paced 20000 20000 [120000, 100000, 80000, 60000, 40000] := by
    simp [Timetable.Paced, Timetable.lastPoll]
  refine silent_network_restarted (by decide) (by decide) (by simp [NetworkCall.Unforced]) paced
    ?_ (by decide) rfl
  rintro earlier now answers n among - - ⟨-, datagram, arrived, -⟩
  have taken := among.subset List.mem_cons_self
  have connected : answers = connectedAt now := by
    simp at taken
    grind
  rw [connected] at arrived
  cases arrived

end Network
end BlueberryIrrigation
