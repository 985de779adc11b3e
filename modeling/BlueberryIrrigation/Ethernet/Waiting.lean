import BlueberryIrrigation.Ethernet.Udp

/-!
# Waiting for a packet

`DNSClient` and `DhcpClass` wait for a packet in the same loop, and read its fields into variables
that they have declared before.
-/

namespace BlueberryIrrigation

open Semantics

namespace EthernetUdp

/-- `iUdp.read` into a variable that holds these bytes: what is missing leaves them as they are. -/
def readInto (held : List UInt8) (udp : EthernetUdp) : List UInt8 × EthernetUdp :=
  let bytes := udp.remaining.take held.length
  (bytes ++ held.drop bytes.length, udp.skip held.length)

/-- The loop that waits for a packet: what each `parsePacket` finds, and the clock behind it. When
the polls end, it has not come to an end. -/
def awaitPacket (startTime : Nat) (timeout : UInt32) :
    List (Option Datagram × Nat) → EthernetUdp → Option (Bool × EthernetUdp)
  | [], _ => none
  | (arrived, now) :: polls, udp =>
      let size := Int16.ofNat (arrived.elim 0 fun datagram => datagram.bytes.length)
      let udp := udp.parsePacket arrived
      -- A size from 2^15 on is negative, and the packet is not looked at.
      if 0 < size then some (true, udp)
      else if timeout < millis now - millis startTime then some (false, udp)
      else awaitPacket startTime timeout polls udp

variable {udp : EthernetUdp} {rest : List UInt8}

theorem skip_front {bytes : List UInt8} {count : Nat} (length : bytes.length = count) :
    ({ udp with remaining := bytes ++ rest } : EthernetUdp).skip count =
      { udp with remaining := rest } := by
  subst length
  simp [skip]

theorem readInto_front (bytes held : List UInt8) (length : held.length = bytes.length) :
    ({ udp with remaining := bytes ++ rest } : EthernetUdp).readInto held =
      (bytes, { udp with remaining := rest }) := by
  unfold readInto
  dsimp only
  rw [skip_front length.symm, length, List.take_left, List.drop_of_length_le length.le,
    List.append_nil]

/-! ## What a wait ends with -/

/-- Nothing has come in time in this wait. -/
inductive Silent (startTime : Nat) (timeout : UInt32) : List (Option Datagram × Nat) → Prop
  | late {now : Nat} {polls : List (Option Datagram × Nat)}
      (late : timeout < millis now - millis startTime) :
      Silent startTime timeout ((none, now) :: polls)
  | wait {now : Nat} {polls : List (Option Datagram × Nat)}
      (early : ¬ timeout < millis now - millis startTime)
      (silent : Silent startTime timeout polls) :
      Silent startTime timeout ((none, now) :: polls)

/-- The datagram is the first one that has come, and in time. -/
inductive Delivers (startTime : Nat) (timeout : UInt32) (datagram : Datagram) :
    List (Option Datagram × Nat) → Prop
  | arrive {now : Nat} {polls : List (Option Datagram × Nat)} :
      Delivers startTime timeout datagram ((some datagram, now) :: polls)
  | wait {now : Nat} {polls : List (Option Datagram × Nat)}
      (early : ¬ timeout < millis now - millis startTime)
      (delivers : Delivers startTime timeout datagram polls) :
      Delivers startTime timeout datagram ((none, now) :: polls)

/-- The poll finds no packet that is looked at. -/
def FindsNothing (found : Option Datagram) : Prop :=
  ¬ 0 < Int16.ofNat (found.elim 0 fun datagram => datagram.bytes.length)

/-- The wait gives up at this time: the poll at it, behind the timeout, is the last one, and
neither it nor an earlier one finds a packet. -/
inductive GivesUpAt (startTime : Nat) (timeout : UInt32) (now : Nat) :
    List (Option Datagram × Nat) → Prop
  | here {found : Option Datagram} {polls : List (Option Datagram × Nat)}
      (nothing : FindsNothing found) (late : timeout < millis now - millis startTime) :
      GivesUpAt startTime timeout now ((found, now) :: polls)
  | wait {found : Option Datagram} {time : Nat} {polls : List (Option Datagram × Nat)}
      (nothing : FindsNothing found) (early : ¬ timeout < millis time - millis startTime)
      (givesUp : GivesUpAt startTime timeout now polls) :
      GivesUpAt startTime timeout now ((found, time) :: polls)

variable {startTime : Nat} {timeout : UInt32} {polls : List (Option Datagram × Nat)}

/-- A poll that finds nothing ends the wait only behind its time. -/
theorem awaitPacket_none (now : Nat) (polls : List (Option Datagram × Nat)) (udp : EthernetUdp) :
    awaitPacket startTime timeout ((none, now) :: polls) udp =
      if timeout < millis now - millis startTime then some (false, udp.parsePacket none)
      else awaitPacket startTime timeout polls (udp.parsePacket none) := by
  rw [awaitPacket]
  exact if_neg (by decide)

theorem awaitPacket_silent (silent : Silent startTime timeout polls) (udp : EthernetUdp) :
    ∃ after, awaitPacket startTime timeout polls udp = some (false, after) := by
  induction silent generalizing udp with
  | late late => exact ⟨_, by rw [awaitPacket_none, if_pos late]⟩
  | wait early silent ih =>
      rw [awaitPacket_none, if_neg early]
      exact ih _

theorem awaitPacket_delivers {datagram : Datagram}
    (size : 0 < Int16.ofNat datagram.bytes.length)
    (delivers : Delivers startTime timeout datagram polls) (udp : EthernetUdp) :
    awaitPacket startTime timeout polls udp = some (true, udp.parsePacket (some datagram)) := by
  induction delivers generalizing udp with
  | arrive =>
      rw [awaitPacket]
      exact if_pos size
  | wait early delivers ih =>
      rw [awaitPacket_none, if_neg early]
      exact ih _

theorem GivesUpAt.late {now : Nat} (givesUp : GivesUpAt startTime timeout now polls) :
    timeout < millis now - millis startTime := by
  induction givesUp with
  | here _ late => exact late
  | wait _ _ _ ih => exact ih

theorem GivesUpAt.polled {now : Nat} (givesUp : GivesUpAt startTime timeout now polls) :
    ∃ found, (found, now) ∈ polls := by
  induction givesUp with
  | here => exact ⟨_, List.mem_cons_self⟩
  | wait _ _ _ ih =>
      obtain ⟨found, listed⟩ := ih
      exact ⟨found, List.mem_cons_of_mem _ listed⟩

/-- A wait that has ended has found a packet, or has given up. -/
theorem awaitPacket_cases {arrived : Bool} {after : EthernetUdp}
    (ended : awaitPacket startTime timeout polls udp = some (arrived, after)) :
    (arrived = true ∧ ∃ datagram now, (some datagram, now) ∈ polls ∧
        0 < Int16.ofNat datagram.bytes.length ∧
        after = ⟨datagram.ip, datagram.port, datagram.bytes⟩) ∨
      arrived = false ∧ ∃ now, GivesUpAt startTime timeout now polls := by
  induction polls generalizing udp with
  | nil => exact absurd ended (by simp [awaitPacket])
  | cons poll polls ih =>
      obtain ⟨found, now⟩ := poll
      rw [awaitPacket] at ended
      by_cases size : 0 < Int16.ofNat (found.elim 0 fun datagram => datagram.bytes.length)
      · rw [if_pos size] at ended
        obtain ⟨rfl, rfl⟩ := Prod.mk.inj (Option.some.inj ended)
        cases found with
        | none => exact absurd size (by decide)
        | some datagram => exact .inl ⟨rfl, datagram, now, List.mem_cons_self, size, rfl⟩
      · rw [if_neg size] at ended
        by_cases late : timeout < millis now - millis startTime
        · rw [if_pos late] at ended
          obtain ⟨rfl, rfl⟩ := Prod.mk.inj (Option.some.inj ended)
          exact .inr ⟨rfl, now, .here size late⟩
        · rw [if_neg late] at ended
          rcases ih ended with ⟨packet, datagram, time, listed, fits⟩ | ⟨none, time, givesUp⟩
          · exact .inl ⟨packet, datagram, time, List.mem_cons_of_mem _ listed, fits⟩
          · exact .inr ⟨none, time, .wait size late givesUp⟩

end EthernetUdp
end BlueberryIrrigation
