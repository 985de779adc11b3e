import BlueberryIrrigation.Ethernet.Dns
import Mathlib.Data.List.Infix

/-!
# Reading the response of a name server

`Message` is a message between a client and a name server, with its encoding in bytes. What the
client makes of a response depends on the message alone: the first address among the answers
decides. In a datagram that ends within a name it goes on reading for ever.
-/

namespace BlueberryIrrigation

open Semantics

namespace Dns

open EthernetUdp

/-! ## Messages -/

/-- A part of a name. The two high bits of its length are free for pointers. -/
structure Label where
  bytes : List UInt8
  positive : 0 < bytes.length
  short : bytes.length < 64

/-- The name in an answer: labels, and behind them their end or a pointer. -/
structure Name where
  labels : List Label
  pointer : Option (UInt8 × UInt8)

structure Question where
  labels : List Label
  questionType : UInt16
  questionClass : UInt16

structure Answer where
  name : Name
  answerType : UInt16
  answerClass : UInt16
  timeToLive : UInt32
  data : List UInt8
  fits : data.length < 65536

/-- A message, with its other sections as they are. -/
structure Message where
  id : UInt16
  flags : UInt16
  questions : List Question
  answers : List Answer
  otherCounts : UInt32
  others : List UInt8
  questionsFit : questions.length < 65536
  answersFit : answers.length < 65536

def Label.encode (label : Label) : List UInt8 := UInt8.ofNat label.bytes.length :: label.bytes

/-- Labels without the end of the name. -/
def encodeLabels (labels : List Label) : List UInt8 := labels.flatMap Label.encode

/-- A word as it is sent, high byte first. -/
def netBytes (word : UInt16) : List UInt8 := bytes16 (htons word)

def Name.encode (name : Name) : List UInt8 :=
  encodeLabels name.labels ++
    match name.pointer with
    | none => [0]
    | some (high, low) => [high ||| labelCompressionMask, low]

def Question.encode (question : Question) : List UInt8 :=
  (⟨question.labels, none⟩ : Name).encode ++ netBytes question.questionType ++
    netBytes question.questionClass

def Answer.encode (answer : Answer) : List UInt8 :=
  answer.name.encode ++ netBytes answer.answerType ++ netBytes answer.answerClass ++
    bytes32 answer.timeToLive ++ netBytes (UInt16.ofNat answer.data.length) ++ answer.data

/-- The header. The identifier comes back as it was sent, whatever its bytes say. -/
def Message.header (message : Message) : List UInt8 :=
  bytes16 message.id ++ netBytes message.flags ++
    netBytes (UInt16.ofNat message.questions.length) ++
    netBytes (UInt16.ofNat message.answers.length) ++ bytes32 message.otherCounts

def Message.encode (message : Message) : List UInt8 :=
  message.header ++ message.questions.flatMap Question.encode ++
    message.answers.flatMap Answer.encode ++ message.others

/-- The answer is an address. -/
def Answer.IsAddress (answer : Answer) : Prop :=
  answer.answerType = typeA ∧ answer.answerClass = classIn

instance : DecidablePred Answer.IsAddress := fun _ => inferInstanceAs (Decidable (_ ∧ _))

/-- What a client makes of an address, which has four bytes if it is one. -/
def Answer.outcome (answer : Answer) (aAddress : UInt32) : DnsCode × UInt32 :=
  if answer.data.length = 4 then
    (.success, word32 (answer.data.getD 0 0) (answer.data.getD 1 0) (answer.data.getD 2 0)
      (answer.data.getD 3 0))
  else (.weirdSize, aAddress)

/-- What is in the answers for a client that looks for an address: the first one decides. -/
def outcome (answers : List Answer) (aAddress : UInt32) : DnsCode × UInt32 :=
  (answers.find? fun answer => answer.IsAddress).elim (.noAddress, aAddress)
    fun answer => answer.outcome aAddress

theorem outcome_cons (answer : Answer) (answers : List Answer) (aAddress : UInt32) :
    outcome (answer :: answers) aAddress =
      if answer.IsAddress then answer.outcome aAddress else outcome answers aAddress := by
  unfold outcome
  by_cases address : answer.IsAddress
  · simp [address]
  · simp [address]

/-- The message answers the request with this identifier, and reports no error. -/
structure Message.Responds (message : Message) (iRequestId : UInt16) : Prop where
  id : message.id = iRequestId
  response : message.flags &&& responseFlag = responseFlag
  whole : message.flags &&& truncationFlag = 0
  sound : message.flags &&& respMask = 0
  answered : message.answers ≠ []

/-! ## Words -/

theorem htons_eq_word16 (word : UInt16) :
    htons word = word16 (word >>> 8).toUInt8 word.toUInt8 := by
  have bound := word.toNat_lt
  have high : ((word >>> 8).toUInt8).toUInt16 = word >>> 8 := by
    rw [← UInt16.toNat_inj]
    simp [Nat.shiftRight_eq_div_pow]
    omega
  have low : word.toUInt8.toUInt16 <<< 8 = word <<< 8 := by
    rw [← UInt16.toNat_inj]
    simp [Nat.shiftLeft_eq]
    omega
  unfold htons word16
  rw [high, low]

theorem toNat_htons (word : UInt16) :
    (htons word).toNat = word.toNat / 256 + 256 * (word.toNat % 256) := by
  have bound := word.toNat_lt
  rw [htons_eq_word16, toNat_word16]
  simp [Nat.shiftRight_eq_div_pow]
  omega

@[simp] theorem htons_htons (word : UInt16) : htons (htons word) = word := by
  have bound := word.toNat_lt
  rw [← UInt16.toNat_inj, toNat_htons, toNat_htons]
  omega

@[simp] theorem netWord_netBytes (word : UInt16) : netWord (netBytes word) = word := by
  unfold netWord netBytes bytes16
  simp [word16_bytes]

@[simp] theorem length_netBytes (word : UInt16) : (netBytes word).length = 2 := rfl

/-! ## Reading what is there -/

variable {udp : EthernetUdp} {rest : List UInt8}

/-- A word that has been sent is read into two bytes. -/
theorem readWord_front (word : UInt16) {held : List UInt8} (length : held.length = 2) :
    ({ udp with remaining := netBytes word ++ rest } : EthernetUdp).readInto held =
      (netBytes word, { udp with remaining := rest }) :=
  readInto_front (netBytes word) held length

@[simp] theorem length_bytes16 (word : UInt16) : (bytes16 word).length = 2 := rfl

@[simp] theorem length_bytes32 (word : UInt32) : (bytes32 word).length = 4 := rfl

namespace Label

/-- The byte of a label is its length. -/
theorem toNat_length (label : Label) :
    (UInt8.ofNat label.bytes.length).toNat = label.bytes.length :=
  UInt8.toNat_ofNat_of_lt' (by
    have short := label.short
    unfold UInt8.size
    omega)

theorem length_pos (label : Label) : 0 < UInt8.ofNat label.bytes.length := by
  rw [UInt8.lt_iff_toNat_lt, label.toNat_length]
  exact label.positive

theorem length_ne_zero (label : Label) : UInt8.ofNat label.bytes.length ≠ 0 := by
  intro zero
  exact absurd (zero ▸ label.length_pos) (by decide)

/-- The byte of a label is no pointer. -/
theorem length_and_mask (label : Label) :
    UInt8.ofNat label.bytes.length &&& labelCompressionMask = 0 := by
  obtain ⟨bytes, -, short⟩ := label
  change UInt8.ofNat bytes.length &&& _ = 0
  generalize bytes.length = count at short ⊢
  revert count
  decide

end Label

theorem Label.read_encode (label : Label) (len : UInt8) :
    ({ udp with remaining := label.encode ++ rest } : EthernetUdp).read.getD len =
      UInt8.ofNat label.bytes.length := rfl

/-- The loops over a name skip a label with two reads. -/
theorem Label.skip_encode (label : Label) :
    (if 0 < UInt8.ofNat label.bytes.length then
      ({ udp with remaining := label.encode ++ rest } : EthernetUdp).next.skip
        (UInt8.ofNat label.bytes.length).toNat
    else ({ udp with remaining := label.encode ++ rest } : EthernetUdp).next) =
      { udp with remaining := rest } := by
  rw [if_pos label.length_pos, label.toNat_length]
  exact skip_front rfl

/-- A label in front is one round of the loop over a name. -/
theorem skipName_label (pointers : Bool) (label : Label) (rounds : Nat) (len : UInt8) :
    skipName pointers (rounds + 1) len { udp with remaining := label.encode ++ rest } =
      skipName pointers rounds (UInt8.ofNat label.bytes.length)
        { udp with remaining := rest } := by
  rw [skipName, label.read_encode, label.skip_encode,
    if_neg fun pointer => pointer.2 label.length_and_mask, if_pos label.length_ne_zero]

/-- The loop over a name ends in the round of its end. In the answers a pointer is one. -/
theorem skipName_spec {name : Name} {pointers : Bool}
    (plain : pointers = false → name.pointer = none) (rounds : Nat) (len : UInt8) :
    skipName pointers rounds len { udp with remaining := name.encode ++ rest } =
      if name.labels.length < rounds then some { udp with remaining := rest } else none := by
  obtain ⟨labels, pointer⟩ := name
  induction labels generalizing rounds len with
  | nil =>
      cases rounds with
      | zero => rfl
      | succ rounds =>
          rw [skipName]
          cases pointer with
          | none =>
              have zero : ¬ (pointers = true ∧ (0 : UInt8) &&& labelCompressionMask ≠ 0) :=
                fun pointer => pointer.2 (by decide)
              exact if_neg zero
          | some bytes =>
              obtain ⟨high, low⟩ := bytes
              have marked : (high ||| labelCompressionMask) &&& labelCompressionMask ≠ 0 := by
                intro zero
                have bits := congrArg UInt8.toBitVec zero
                rw [UInt8.toBitVec_and, UInt8.toBitVec_or, BitVec.and_or_distrib_right] at bits
                exact absurd (BitVec.or_eq_zero_iff.mp bits).2 (by decide)
              have answer : pointers = true := by
                by_contra question
                exact absurd (plain (Bool.eq_false_of_not_eq_true question)) (by simp)
              exact if_pos ⟨answer, marked⟩
  | cons label labels ih =>
      cases rounds with
      | zero => rfl
      | succ rounds =>
          have front : (⟨label :: labels, pointer⟩ : Name).encode ++ rest =
              label.encode ++ ((⟨labels, pointer⟩ : Name).encode ++ rest) := by
            simp [Name.encode, encodeLabels]
          rw [front, skipName_label, ih _ _ plain, List.length_cons]
          simp only [Nat.add_lt_add_iff_right]

/-- So many rounds are enough for all the names. -/
def Message.RoundsSuffice (rounds : Nat) (message : Message) : Prop :=
  (∀ question ∈ message.questions, question.labels.length < rounds) ∧
    ∀ answer ∈ message.answers, answer.name.labels.length < rounds

/-- The loop over the questions ends behind them, if no name is too long. -/
theorem skipQuestions_spec (questions : List Question) (rounds : Nat)
    (questionLen : Nat → UInt8) :
    skipQuestions rounds questionLen questions.length
        { udp with remaining := questions.flatMap Question.encode ++ rest } =
      if ∀ question ∈ questions, question.labels.length < rounds then
        some { udp with remaining := rest }
      else none := by
  induction questions with
  | nil => exact (if_pos (by simp)).symm
  | cons question questions ih =>
      have front : (question :: questions).flatMap Question.encode ++ rest =
          (⟨question.labels, none⟩ : Name).encode ++
            ((netBytes question.questionType ++ netBytes question.questionClass) ++
              (questions.flatMap Question.encode ++ rest)) := by
        simp [Question.encode]
      rw [List.length_cons, skipQuestions, front, skipName_spec fun _ => rfl]
      by_cases first : question.labels.length < rounds
      · simp only [List.forall_mem_cons, first, true_and, if_true]
        exact (congrArg (skipQuestions rounds questionLen questions.length)
          (skip_front rfl)).trans ih
      · rw [if_neg first, if_neg fun all => first (all question List.mem_cons_self)]
        rfl

/-- One round of the loop over the answers: an address ends it, and another answer is skipped. -/
theorem readAnswers_cons (answer : Answer) (count rounds : Nat)
    (answerLocals : Nat → AnswerLocals) (aAddress : UInt32) {headerFlags : List UInt8}
    (word : headerFlags.length = 2) :
    readAnswers rounds answerLocals (count + 1) headerFlags aAddress
        { udp with remaining := answer.encode ++ rest } =
      if answer.name.labels.length < rounds then
        if answer.IsAddress then
          some ((answer.outcome aAddress).1, (answer.outcome aAddress).2,
            { udp with remaining := (if answer.data.length = 4 then [] else answer.data) ++ rest })
        else
          readAnswers rounds answerLocals count (netBytes (UInt16.ofNat answer.data.length))
            aAddress { udp with remaining := rest }
      else none := by
  have front : answer.encode ++ rest =
      answer.name.encode ++ (netBytes answer.answerType ++ (netBytes answer.answerClass ++
        (bytes32 answer.timeToLive ++ (netBytes (UInt16.ofNat answer.data.length) ++
          (answer.data ++ rest))))) := by
    simp [Answer.encode]
  have length : (UInt16.ofNat answer.data.length).toNat = answer.data.length :=
    UInt16.toNat_ofNat_of_lt' answer.fits
  have size : UInt16.ofNat answer.data.length = 4 ↔ answer.data.length = 4 := by
    rw [← UInt16.toNat_inj, length]
    rfl
  rw [readAnswers, front, skipName_spec (by simp)]
  by_cases enough : answer.name.labels.length < rounds
  · rw [if_pos enough, if_pos enough]
    simp only [Option.bind_eq_bind, Option.bind_some]
    rw [readWord_front answer.answerType (length_bytes16 _)]
    dsimp only
    rw [readWord_front answer.answerClass (length_bytes16 _)]
    dsimp only
    rw [skip_front (show (bytes32 answer.timeToLive).length = ttlSize.toNat from rfl),
      readWord_front (UInt16.ofNat answer.data.length) word]
    dsimp only
    rw [netWord_netBytes, netWord_netBytes, netWord_netBytes]
    by_cases address : answer.IsAddress
    · rw [if_pos (show answer.answerType = typeA ∧ answer.answerClass = classIn from address),
        if_pos address]
      unfold Answer.outcome
      by_cases four : answer.data.length = 4
      · rw [if_neg (not_not_intro (size.mpr four)), if_pos four, if_pos four,
          readInto_front answer.data (bytes32 aAddress) four.symm]
        rfl
      · rw [if_pos (mt size.mp four), if_neg four, if_neg four]
        rfl
    · rw [if_neg (show ¬ (answer.answerType = typeA ∧ answer.answerClass = classIn) from address),
        if_neg address, length, skip_front rfl]
  · rw [if_neg enough, if_neg enough]
    rfl

/-- The loop over the answers finds their outcome. -/
theorem readAnswers_spec {answers : List Answer} {rounds : Nat} (answerLocals : Nat → AnswerLocals)
    (enough : ∀ answer ∈ answers, answer.name.labels.length < rounds) (aAddress : UInt32)
    {headerFlags : List UInt8} (word : headerFlags.length = 2) :
    ∃ after, readAnswers rounds answerLocals answers.length headerFlags aAddress
        { udp with remaining := answers.flatMap Answer.encode ++ rest } =
      some ((outcome answers aAddress).1, (outcome answers aAddress).2, after) := by
  induction answers generalizing headerFlags with
  | nil => exact ⟨_, rfl⟩
  | cons answer answers ih =>
      obtain ⟨first, others⟩ := List.forall_mem_cons.mp enough
      rw [List.length_cons, List.flatMap_cons, List.append_assoc, readAnswers_cons _ _ _ _ _ word,
        if_pos first, outcome_cons]
      split
      · exact ⟨_, rfl⟩
      · exact ih others (length_netBytes _)

/-! ## Responses -/

variable {message : Message} {rounds : Nat} {iDnsServer aAddress : UInt32} {iRequestId : UInt16}
  {input : ResponseInput}

theorem Message.length_header (message : Message) :
    message.header.length = dnsHeaderSize.toNat := rfl

/-- Behind the header of a response come the two loops. -/
theorem processPacket_header (udp : EthernetUdp) (responds : message.Responds iRequestId)
    (behind : List UInt8) (fromServer : udp.remoteIp = iDnsServer) (port : udp.remotePort = dnsPort) :
    processPacket rounds iDnsServer iRequestId input aAddress
        { udp with remaining := message.header ++ behind } =
      (skipQuestions rounds input.questionLen message.questions.length
        { udp with remaining := behind }).bind
        (readAnswers rounds input.answerLocals message.answers.length (bytes16 message.flags)
          aAddress) := by
  have enough : ¬ (message.header ++ behind).length < dnsHeaderSize.toNat := by
    rw [List.length_append, message.length_header]
    exact Nat.not_lt.mpr (Nat.le_add_right _ _)
  have header : (message.header ++ behind).take dnsHeaderSize.toNat = message.header :=
    List.take_left' message.length_header
  have id : word16 (message.header.getD 0 0) (message.header.getD 1 0) = message.id :=
    word16_bytes message.id
  have flags : htons (word16 (message.header.getD 2 0) (message.header.getD 3 0)) =
      message.flags := netWord_netBytes message.flags
  have questions : htons (word16 (message.header.getD 4 0) (message.header.getD 5 0)) =
      UInt16.ofNat message.questions.length := netWord_netBytes _
  have answers : htons (word16 (message.header.getD 6 0) (message.header.getD 7 0)) =
      UInt16.ofNat message.answers.length := netWord_netBytes _
  have questionCount : (UInt16.ofNat message.questions.length).toNat = message.questions.length :=
    UInt16.toNat_ofNat_of_lt' message.questionsFit
  have answerCount : (UInt16.ofNat message.answers.length).toNat = message.answers.length :=
    UInt16.toNat_ofNat_of_lt' message.answersFit
  have some : UInt16.ofNat message.answers.length ≠ 0 := by
    intro none
    rw [none] at answerCount
    exact responds.answered (List.eq_nil_of_length_eq_zero answerCount.symm)
  unfold processPacket
  dsimp only
  rw [if_neg (by simp [fromServer, port]), if_neg enough, header, id, flags, questions, answers,
    if_neg (by simp [responds.id, responds.response]),
    if_neg (by simp [responds.whole, responds.sound]), if_neg some,
    skip_front message.length_header, questionCount, answerCount]
  rfl

/-- The outcome of a response is that of its answers. -/
theorem processPacket_spec (input : ResponseInput) (aAddress : UInt32)
    (responds : message.Responds iRequestId) (enough : message.RoundsSuffice rounds)
    (fromServer : udp.remoteIp = iDnsServer) (port : udp.remotePort = dnsPort) (carries : udp.remaining = message.encode) :
    ∃ after, processPacket rounds iDnsServer iRequestId input aAddress udp =
      some ((outcome message.answers aAddress).1, (outcome message.answers aAddress).2, after) := by
  have front : udp = { udp with
      remaining := message.header ++ (message.questions.flatMap Question.encode ++
        (message.answers.flatMap Answer.encode ++ message.others)) } := by
    rw [← List.append_assoc, ← List.append_assoc, ← Message.encode, ← carries]
  rw [front, processPacket_header udp responds _ fromServer port, skipQuestions_spec,
    if_pos enough.1]
  exact readAnswers_spec input.answerLocals enough.2 aAddress (length_bytes16 _)

/-! ## Datagrams that end within a name -/

/-- When nothing is left to be read, the loop over a name goes on for ever. -/
theorem skipName_starves (label : Label) (pointers : Bool) (rounds : Nat) :
    skipName pointers rounds (UInt8.ofNat label.bytes.length) { udp with remaining := [] } =
      none := by
  induction rounds with
  | zero => rfl
  | succ rounds ih =>
      have read : ({ udp with remaining := [] } : EthernetUdp).read.getD
          (UInt8.ofNat label.bytes.length) = UInt8.ofNat label.bytes.length := rfl
      rw [skipName, read, if_neg fun pointer => pointer.2 label.length_and_mask,
        if_pos label.length_ne_zero]
      split <;> simpa [EthernetUdp.next, EthernetUdp.skip] using ih

/-- The bytes are those of some labels, cut off before the end of the name. -/
def CutOff (labels : List Label) (bytes : List UInt8) : Prop :=
  bytes ≠ [] ∧ bytes <+: encodeLabels labels

variable {labels : List Label} {part : List UInt8}

/-- Behind a label that is there as a whole the rest is cut off, if it is not missing. -/
theorem CutOff.behind {label : Label} (cut : CutOff (label :: labels) part) :
    ∃ bytes, part = UInt8.ofNat label.bytes.length :: bytes ∧
      (bytes.drop label.bytes.length = [] ∨ CutOff labels (bytes.drop label.bytes.length)) := by
  obtain ⟨nonempty, missing, whole⟩ := cut
  cases part with
  | nil => exact absurd rfl nonempty
  | cons byte bytes =>
      obtain ⟨rfl, same⟩ := List.cons_eq_cons.mp whole
      refine ⟨bytes, rfl, or_iff_not_imp_left.mpr fun some => ⟨some, ?_⟩⟩
      have front : bytes <+: label.bytes ++ encodeLabels labels := ⟨missing, same⟩
      have rest := List.IsPrefix.drop front label.bytes.length
      rwa [List.drop_left] at rest

theorem skipName_cutOff (cut : CutOff labels part) (pointers : Bool) (rounds : Nat)
    (len : UInt8) : skipName pointers rounds len { udp with remaining := part } = none := by
  induction labels generalizing part rounds len with
  | nil => exact absurd (List.prefix_nil.mp cut.2) cut.1
  | cons label labels ih =>
      obtain ⟨bytes, rfl, rest⟩ := cut.behind
      cases rounds with
      | zero => rfl
      | succ rounds =>
          have read : ({ udp with
              remaining := UInt8.ofNat label.bytes.length :: bytes } : EthernetUdp).read.getD len =
              UInt8.ofNat label.bytes.length := rfl
          rw [skipName, read, if_neg fun pointer => pointer.2 label.length_and_mask,
            if_pos label.length_pos, if_pos label.length_ne_zero, label.toNat_length]
          change skipName pointers rounds _
            { udp with remaining := bytes.drop label.bytes.length } = none
          rcases rest with missing | cut
          · rw [missing]
            exact skipName_starves label pointers rounds
          · exact ih cut rounds _

theorem skipQuestions_cutOff (cut : CutOff labels part) (before : List Question) (count : Nat)
    (rounds : Nat) (questionLen : Nat → UInt8) :
    skipQuestions rounds questionLen (before.length + (count + 1))
      { udp with remaining := before.flatMap Question.encode ++ part } = none := by
  induction before with
  | nil =>
      rw [List.length_nil, Nat.zero_add, skipQuestions]
      exact congrArg (Option.bind · _) (skipName_cutOff cut false rounds _)
  | cons question before ih =>
      have front : (question :: before).flatMap Question.encode ++ part =
          (⟨question.labels, none⟩ : Name).encode ++
            ((netBytes question.questionType ++ netBytes question.questionClass) ++
              (before.flatMap Question.encode ++ part)) := by
        simp [Question.encode]
      rw [List.length_cons, Nat.succ_add, skipQuestions, front,
        skipName_spec fun _ => rfl]
      split
      · exact (congrArg (skipQuestions rounds questionLen (before.length + (count + 1)))
          (skip_front rfl)).trans ih
      · rfl

theorem readAnswers_cutOff (cut : CutOff labels part) (before : List Answer)
    (passed : ∀ answer ∈ before, ¬ answer.IsAddress) (count rounds : Nat)
    (answerLocals : Nat → AnswerLocals) (aAddress : UInt32) {headerFlags : List UInt8}
    (word : headerFlags.length = 2) :
    readAnswers rounds answerLocals (before.length + (count + 1)) headerFlags aAddress
      { udp with remaining := before.flatMap Answer.encode ++ part } = none := by
  induction before generalizing headerFlags with
  | nil =>
      rw [List.length_nil, Nat.zero_add, readAnswers]
      exact congrArg (Option.bind · _) (skipName_cutOff cut true rounds _)
  | cons answer before ih =>
      obtain ⟨first, others⟩ := List.forall_mem_cons.mp passed
      rw [List.length_cons, Nat.succ_add, List.flatMap_cons, List.append_assoc,
        readAnswers_cons _ _ _ _ _ word, if_neg first]
      split
      · exact ih others (length_netBytes _)
      · rfl

/-- These bytes begin like the message and end within the name of a question, or of an answer that
no address stands before. -/
inductive EndsInName (message : Message) : List UInt8 → Prop
  | question {before after : List Question} {question : Question} {part : List UInt8}
      (questions : message.questions = before ++ question :: after)
      (cut : CutOff question.labels part) :
      EndsInName message (message.header ++ (before.flatMap Question.encode ++ part))
  | answer {before after : List Answer} {answer : Answer} {part : List UInt8}
      (answers : message.answers = before ++ answer :: after)
      (passed : ∀ answer ∈ before, ¬ answer.IsAddress) (cut : CutOff answer.name.labels part) :
      EndsInName message (message.header ++ (message.questions.flatMap Question.encode ++
        (before.flatMap Answer.encode ++ part)))

/-- However long the loops run, they do not come to an end. -/
theorem processPacket_endsInName (responds : message.Responds iRequestId)
    (fromServer : udp.remoteIp = iDnsServer) (port : udp.remotePort = dnsPort)
    (ends : EndsInName message udp.remaining) (rounds : Nat) :
    processPacket rounds iDnsServer iRequestId input aAddress udp = none := by
  obtain ⟨remoteIp, remotePort, remaining⟩ := udp
  cases ends with
  | question questions cut =>
      refine (processPacket_header ⟨remoteIp, remotePort, []⟩ responds _ fromServer port).trans ?_
      rw [questions, List.length_append, List.length_cons, skipQuestions_cutOff cut]
      rfl
  | answer answers passed cut =>
      refine (processPacket_header ⟨remoteIp, remotePort, []⟩ responds _ fromServer port).trans ?_
      rw [skipQuestions_spec, answers, List.length_append, List.length_cons]
      split
      · exact readAnswers_cutOff cut _ passed _ rounds input.answerLocals aAddress
          (length_bytes16 _)
      · rfl

end Dns
end BlueberryIrrigation
