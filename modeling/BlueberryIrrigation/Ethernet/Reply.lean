import BlueberryIrrigation.Ethernet.Dhcp
import Mathlib.Tactic.IntervalCases

/-!
# Reading the reply of a DHCP server

`DhcpReply` is a reply as servers send it, with its encoding in bytes. For the client a reply is a
list of parameters that are assigned one after another, unless the reply is for another client or
from an earlier call, and then it is nothing at all.
-/

namespace BlueberryIrrigation

open Semantics EthernetUdp

theorem htonl_htonl (word : UInt32) : htonl (htonl word) = word := by
  unfold htonl
  apply UInt32.toBitVec_inj.mp
  ext i inside
  interval_cases i
  all_goals simp

/-! ## Replies -/

/-- An option, with what the client reads of it. -/
inductive DhcpOption where
  /-- The end and what fills up the packet behind it: the client does not tell them apart. -/
  | mark (isEnd : Bool)
  | messageType (type : UInt8)
  | subnetMask (ip : UInt32)
  | routers (ip : UInt32) (others : List UInt8) (fits : others.length < 252)
  | dns (ip : UInt32) (others : List UInt8) (fits : others.length < 252)
  | serverIdentifier (ip : UInt32)
  | leaseTime (seconds : UInt32)
  | t1 (seconds : UInt32)
  | t2 (seconds : UInt32)
  | other (code : UInt8) (data : List UInt8) (fits : data.length < 256)
      (unused : code ∉ ([0, 1, 3, 6, 51, 53, 54, 58, 59, 255] : List UInt8))

namespace DhcpOption

def encode : DhcpOption → List UInt8
  | mark isEnd => [if isEnd then 255 else 0]
  | messageType type => [53, 1, type]
  | subnetMask ip => [1, 4] ++ bytes32 ip
  | routers ip others _ => [3, UInt8.ofNat (4 + others.length)] ++ bytes32 ip ++ others
  | dns ip others _ => [6, UInt8.ofNat (4 + others.length)] ++ bytes32 ip ++ others
  | serverIdentifier ip => [54, 4] ++ bytes32 ip
  | leaseTime seconds => [51, 4] ++ bytes32 (htonl seconds)
  | t1 seconds => [58, 4] ++ bytes32 (htonl seconds)
  | t2 seconds => [59, 4] ++ bytes32 (htonl seconds)
  | other code data _ _ => [code, UInt8.ofNat data.length] ++ data

/-- What an option of a packet from this address does to the lease. A server is taken over once,
and then only the server itself may change it. -/
def apply (remoteIp : UInt32) (d : Dhcp) : DhcpOption → Dhcp
  | subnetMask ip => { d with subnetMask := ip }
  | routers ip _ _ => { d with gatewayIp := ip }
  | dns ip _ _ => { d with dnsServerIp := ip }
  | serverIdentifier ip =>
      if d.dhcpServerIp = 0 ∨ d.dhcpServerIp = remoteIp then { d with dhcpServerIp := ip } else d
  | leaseTime seconds => { d with leaseTime := seconds, renewInSec := seconds }
  | t1 seconds => { d with t1 := seconds }
  | t2 seconds => { d with t2 := seconds }
  | mark _ | messageType _ | other _ _ _ _ => d

/-- The message type, if the option is it. -/
def typeOr (type : UInt8) : DhcpOption → UInt8
  | messageType type => type
  | _ => type

end DhcpOption

/-- A reply, with the fields that the client does not use. -/
structure DhcpReply where
  htype : UInt8
  hlen : UInt8
  hops : UInt8
  xid : UInt32
  secs : UInt16
  flags : UInt16
  ciaddr : UInt32
  yiaddr : UInt32
  siaddr : UInt32
  giaddr : UInt32
  chaddr : List UInt8
  names : List UInt8
  options : List DhcpOption
  chaddrSize : chaddr.length = 6
  namesSize : names.length = 240 - ripMsgFixedSize

namespace DhcpReply

/-- The fixed part. -/
def fixedMsg (reply : DhcpReply) : List UInt8 :=
  [dhcpBootReply, reply.htype, reply.hlen, reply.hops] ++ (bytes32 (htonl reply.xid) ++
    (bytes16 reply.secs ++ (bytes16 reply.flags ++ (bytes32 reply.ciaddr ++
      (bytes32 reply.yiaddr ++ (bytes32 reply.siaddr ++ (bytes32 reply.giaddr ++
        reply.chaddr)))))))

def encode (reply : DhcpReply) : List UInt8 :=
  reply.fixedMsg ++ (reply.names ++ reply.options.flatMap DhcpOption.encode)

theorem length_fixedMsg (reply : DhcpReply) : reply.fixedMsg.length = ripMsgFixedSize := by
  simp [fixedMsg, bytes16, bytes32, reply.chaddrSize, ripMsgFixedSize]

theorem fixedXid_fixedMsg (reply : DhcpReply) : Dhcp.fixedXid reply.fixedMsg = reply.xid :=
  (congrArg htonl (word32_bytes (htonl reply.xid))).trans (htonl_htonl reply.xid)

theorem fixedYiaddr_fixedMsg (reply : DhcpReply) :
    Dhcp.fixedYiaddr reply.fixedMsg = reply.yiaddr := word32_bytes reply.yiaddr

theorem fixedChaddr_fixedMsg (reply : DhcpReply) :
    Dhcp.fixedChaddr reply.fixedMsg = reply.chaddr :=
  List.take_of_length_le reply.chaddrSize.le

end DhcpReply

/-! ## Options -/

variable {udp : EthernetUdp} {rest : List UInt8}

theorem EthernetUdp.readWord_front (word held : UInt32) :
    ({ udp with remaining := bytes32 word ++ rest } : EthernetUdp).readWord held =
      (word, { udp with remaining := rest }) := by
  unfold readWord
  rw [readInto_front (bytes32 word) (bytes32 held) rfl]
  exact congrArg (·, _) (word32_bytes word)

namespace Dhcp

/-- What a parameter of several addresses has behind the first one. -/
theorem toNat_others {count : Nat} (fits : count < 252) :
    ((UInt8.ofNat (4 + count)).toUInt16 - 4).toNat = count := by
  have length : (UInt8.ofNat (4 + count)).toUInt16.toNat = 4 + count := by
    rw [UInt8.toNat_toUInt16, UInt8.toNat_ofNat']
    omega
  have four : (4 : UInt16).toNat = 4 := rfl
  rw [UInt16.toNat_sub_of_le _ _ (by rw [UInt16.le_iff_toNat_le, length, four]; omega), length,
    four]
  omega

/-- An option with a length is a parameter. -/
theorem readOption_parameter {code : UInt8} (parameter : ¬ (code = 255 ∨ code = 0))
    (optLen : UInt8) (data : List UInt8) (d : Dhcp) (type : UInt8) :
    d.readOption type { udp with remaining := code :: optLen :: data } =
      readParameter code optLen d type { udp with remaining := data } :=
  if_neg parameter

/-- An option that the client does not know is skipped. -/
theorem readParameter_other {code : UInt8} (data : List UInt8) (fits : data.length < 256)
    (unused : code ∉ ([0, 1, 3, 6, 51, 53, 54, 58, 59, 255] : List UInt8)) (d : Dhcp)
    (type : UInt8) :
    readParameter code (UInt8.ofNat data.length) d type { udp with remaining := data ++ rest } =
      (d, type, { udp with remaining := rest }) := by
  have length : (UInt8.ofNat data.length).toNat = data.length := UInt8.toNat_ofNat_of_lt' fits
  have known (value : Nat) (listed : UInt8.ofNat value ∈
      ([0, 1, 3, 6, 51, 53, 54, 58, 59, 255] : List UInt8)) : code.toNat ≠ value := by
    intro same
    refine unused ?_
    rw [← UInt8.ofNat_toNat (x := code), same]
    exact listed
  unfold readParameter
  split
  all_goals first
    | exact absurd ‹code.toNat = _› (known _ (by decide))
    | exact congrArg (fun after => (d, type, after)) (skip_front length.symm)

theorem readOption_encode (option : DhcpOption) (d : Dhcp) (type : UInt8) :
    d.readOption type { udp with remaining := option.encode ++ rest } =
      (option.apply udp.remoteIp d, option.typeOr type, { udp with remaining := rest }) := by
  cases option with
  | mark isEnd => cases isEnd <;> rfl
  | messageType type => rfl
  | subnetMask ip =>
      exact congrArg (fun read => ({ d with subnetMask := read.1 }, type, read.2))
        (readWord_front ip d.subnetMask)
  | routers ip others fits =>
      exact (congrArg (fun read => ({ d with gatewayIp := read.1 }, type,
          read.2.skip ((UInt8.ofNat (4 + others.length)).toUInt16 - 4).toNat))
        (readWord_front ip d.gatewayIp)).trans
          (congrArg (fun after => ({ d with gatewayIp := ip }, type, after))
            (skip_front (toNat_others fits).symm))
  | dns ip others fits =>
      exact (congrArg (fun read => ({ d with dnsServerIp := read.1 }, type,
          read.2.skip ((UInt8.ofNat (4 + others.length)).toUInt16 - 4).toNat))
        (readWord_front ip d.dnsServerIp)).trans
          (congrArg (fun after => ({ d with dnsServerIp := ip }, type, after))
            (skip_front (toNat_others fits).symm))
  | serverIdentifier ip =>
      by_cases free : d.dhcpServerIp = 0 ∨ d.dhcpServerIp = udp.remoteIp
      · have taken : DhcpOption.apply udp.remoteIp d (.serverIdentifier ip) =
            { d with dhcpServerIp := ip } := if_pos free
        rw [taken]
        exact (if_pos free).trans
          (congrArg (fun read => ({ d with dhcpServerIp := read.1 }, type, read.2))
            (readWord_front ip d.dhcpServerIp))
      · have left : DhcpOption.apply udp.remoteIp d (.serverIdentifier ip) = d := if_neg free
        rw [left]
        exact (if_neg free).trans (congrArg (fun after => (d, type, after)) (skip_front rfl))
  | leaseTime seconds =>
      refine (congrArg (fun read => ({ d with
        leaseTime := htonl read.1, renewInSec := htonl read.1 }, type, read.2))
        (readWord_front (htonl seconds) d.leaseTime)).trans ?_
      rw [htonl_htonl]
      rfl
  | t1 seconds =>
      refine (congrArg (fun read => ({ d with t1 := htonl read.1 }, type, read.2))
        (readWord_front (htonl seconds) d.t1)).trans ?_
      rw [htonl_htonl]
      rfl
  | t2 seconds =>
      refine (congrArg (fun read => ({ d with t2 := htonl read.1 }, type, read.2))
        (readWord_front (htonl seconds) d.t2)).trans ?_
      rw [htonl_htonl]
      rfl
  -- The code is none that the `switch` knows.
  | other code data fits unused =>
      have parameter : ¬ (code = 255 ∨ code = 0) := by
        rintro (rfl | rfl)
        · exact unused (by decide)
        · exact unused (by decide)
      exact (readOption_parameter parameter _ _ d type).trans
        (readParameter_other data fits unused d type)

theorem one_le_length_encode (option : DhcpOption) : 1 ≤ option.encode.length := by
  cases option <;> simp [DhcpOption.encode]

/-- The loop over the options does them one after another. -/
theorem readOptions_encode {options : List DhcpOption} {rounds : Nat}
    (enough : (options.flatMap DhcpOption.encode).length ≤ rounds) (d : Dhcp) (type : UInt8) :
    readOptions rounds d type { udp with remaining := options.flatMap DhcpOption.encode } =
      (options.foldl (DhcpOption.apply udp.remoteIp) d, options.foldl DhcpOption.typeOr type,
        { udp with remaining := [] }) := by
  induction options generalizing rounds d type with
  | nil => cases rounds <;> rfl
  | cons option options ih =>
      -- An option takes a byte at least, so there are rounds enough for the others.
      have one := one_le_length_encode option
      rw [List.flatMap_cons, List.length_append] at enough
      cases rounds with
      | zero => omega
      | succ rounds =>
          have some : option.encode ++ options.flatMap DhcpOption.encode ≠ [] := by
            intro none
            have nothing := congrArg List.length (List.append_eq_nil_iff.mp none).1
            rw [List.length_nil] at nothing
            omega
          rw [List.flatMap_cons, readOptions, if_neg some, readOption_encode]
          exact ih (by omega) _ _

/-! ## Replies -/

/-- The reply is for this client, and to a message of this call. -/
def Accepts (d : Dhcp) (reply : DhcpReply) : Prop :=
  reply.chaddr = d.macAddr ∧ d.initialTransactionId ≤ reply.xid ∧ reply.xid ≤ d.transactionId

instance decidableAccepts (d : Dhcp) (reply : DhcpReply) : Decidable (d.Accepts reply) :=
  inferInstanceAs (Decidable (_ ∧ _ ∧ _))

/-- What a reply from this address is for the client: its message type, and the lease with its
parameters. -/
def hear (remoteIp : UInt32) (reply : DhcpReply) (d : Dhcp) : UInt8 × Dhcp :=
  if d.Accepts reply then
    (reply.options.foldl DhcpOption.typeOr 0,
      reply.options.foldl (DhcpOption.apply remoteIp) { d with localIp := reply.yiaddr })
  else (0, d)

theorem rejects_fixedMsg (d : Dhcp) (reply : DhcpReply) :
    d.Rejects reply.fixedMsg ↔ ¬ d.Accepts reply := by
  unfold Rejects Accepts
  rw [reply.fixedChaddr_fixedMsg, reply.fixedXid_fixedMsg, not_and_or, not_and_or, UInt32.not_le,
    UInt32.not_le]

/-- A packet with a reply is read as the reply. -/
theorem parseReply_encode {fixedMsg : List UInt8} (fixed : fixedMsg.length = ripMsgFixedSize)
    (d : Dhcp) (reply : DhcpReply) (remoteIp : UInt32) :
    ∃ left, parseReply fixedMsg d ⟨remoteIp, dhcpServerPort, reply.encode⟩ =
      ((d.hear remoteIp reply).1, some reply.xid, (d.hear remoteIp reply).2, left) := by
  have read : (⟨remoteIp, dhcpServerPort, reply.encode⟩ : EthernetUdp).readInto fixedMsg =
      (reply.fixedMsg, ⟨remoteIp, dhcpServerPort,
        reply.names ++ reply.options.flatMap DhcpOption.encode⟩) :=
    @readInto_front ⟨remoteIp, dhcpServerPort, []⟩
      (reply.names ++ reply.options.flatMap DhcpOption.encode) reply.fixedMsg fixedMsg
      (fixed.trans reply.length_fixedMsg.symm)
  have options : (⟨remoteIp, dhcpServerPort, reply.names ++
      reply.options.flatMap DhcpOption.encode⟩ : EthernetUdp).skip (240 - ripMsgFixedSize) =
        ⟨remoteIp, dhcpServerPort, reply.options.flatMap DhcpOption.encode⟩ :=
    @skip_front ⟨remoteIp, dhcpServerPort, []⟩ _ _ _ reply.namesSize
  have bootReply : reply.fixedMsg.getD 0 0 = dhcpBootReply ∧ dhcpServerPort = dhcpServerPort :=
    ⟨rfl, rfl⟩
  unfold parseReply hear
  rw [read]
  dsimp only
  rw [if_pos bootReply, reply.fixedXid_fixedMsg, reply.fixedYiaddr_fixedMsg, options]
  by_cases accepts : d.Accepts reply
  · rw [if_neg (mt (d.rejects_fixedMsg reply).mp (not_not_intro accepts)), if_pos accepts]
    dsimp only
    rw [@readOptions_encode ⟨remoteIp, dhcpServerPort, []⟩ _ _ (Nat.le_refl _)]
    exact ⟨_, rfl⟩
  · rw [if_pos ((d.rejects_fixedMsg reply).mpr accepts), if_neg accepts]
    exact ⟨_, rfl⟩

end Dhcp
end BlueberryIrrigation
