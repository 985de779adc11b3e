import BlueberryIrrigation.Web.Relay

/-!
# What the page reads (`script.js`)

`processReceivedBytes` reads the messages of a reply one behind the other. Positions count from
the start of the reply, also where the code means a distance.
-/

namespace BlueberryIrrigation

/-- What a call of `processReceivedBytes` does, in this order. -/
inductive PageEvent where
  /-- The text of `pValueElements[element]` is assigned. -/
  | shows (element : Fin 20) (text : String)
  /-- `programTimeLeft` is assigned, and `startTime` with the time of the call; `none` is `NaN`. -/
  | times (seconds : Option Nat)
  /-- An unknown command passes over these bytes. -/
  | skips (bytes : List UInt8)
deriving DecidableEq

namespace Page

/-! ## The parser -/

/-- The text of a byte that is assigned; a read behind the end is `undefined`. -/
def byteText : Option UInt8 → String
  | some value => toString value.toNat
  | none => "undefined"

/-- `receivedBytes[byteCounter++] * 255 + receivedBytes[byteCounter++]` -/
def word : Option UInt8 → Option UInt8 → Option Nat
  | some high, some low => some (high.toNat * 255 + low.toNat)
  | _, _ => none

def wordText : Option Nat → String
  | some value => toString value
  | none => "NaN"

def switchText (state : Option UInt8) : String :=
  if state = some 0 then "Isklucen" else "Ukljucen"

/-- Commands 1 and 2: the elements of the three valves, or of the three pumps. -/
def readSwitch (first second third : Fin 20) (temp state : Option UInt8) : List PageEvent × Nat :=
  if temp = some 1 then ([.shows first (switchText state)], 2)
  else if temp = some 2 then ([.shows second (switchText state)], 2)
  else if temp = some 3 then ([.shows third (switchText state)], 2)
  else ([], 1)

/-- The `switch`, without its default: what the command does with the two bytes behind it, and how
many of them it reads. -/
def readCommand (ssid : Option UInt8) (command : UInt8) (first second : Option UInt8) :
    Option (List PageEvent × Nat) :=
  match command.toNat with
  | 0 =>
      if ssid = some 1 then some ([.shows 0 (switchText first)], 1)
      else some ([.shows 19 (byteText first)], 1)
  | 1 => some (readSwitch 1 2 3 first second)
  | 2 => some (readSwitch 4 5 6 first second)
  | 3 => some ([.shows 7 (if first = some 0 then "Zavrsen" else byteText first)], 1)
  | 4 => some ([.shows 8 (byteText first ++ "m")], 1)
  | 5 => some ([.shows 9 (byteText first ++ "s")], 1)
  | 6 => some ([.shows 10 (byteText first ++ "m")], 1)
  | 7 => some ([.shows 11 (byteText first ++ "m")], 1)
  | 8 => some ([.shows 12 (wordText (word first second) ++ "ml")], 2)
  | 9 => some ([.shows 13 (wordText (word first second) ++ "ml")], 2)
  | 10 => some ([.shows 14 (wordText (word first second) ++ "/L")], 2)
  | 11 => some ([.shows 15 (wordText (word first second) ++ "/L")], 2)
  | 12 => some ([.shows 16 (wordText (word first second) ++ "ml")], 2)
  | 13 => some ([.shows 17 (wordText (word first second) ++ "ml")], 2)
  | 14 => some ([.times (word first second)], 2)
  | _ => none

/-- The element of the running countdown, which no command writes. -/
def programTime : Fin 20 := 18

/-- One turn of the inner loop, and how far the counter goes on behind the command. -/
def readNext (receivedBytes : List UInt8) (ssid : Option UInt8) (partLength byteCounter : Nat) :
    List PageEvent × Nat :=
  let read := receivedBytes[byteCounter]?.bind fun command =>
    readCommand ssid command receivedBytes[byteCounter + 1]? receivedBytes[byteCounter + 2]?
  -- `default: byteCounter += partLength - 1`
  read.getD ([.skips ((receivedBytes.drop (byteCounter + 1)).take (partLength - 1))],
    partLength - 1)

/-- The inner loop, with the counter that it leaves. -/
def readPart (receivedBytes : List UInt8) (ssid : Option UInt8) (partLength byteCounter : Nat) :
    List PageEvent × Nat :=
  if byteCounter < partLength then
    let read := readNext receivedBytes ssid partLength byteCounter
    let later := readPart receivedBytes ssid partLength (byteCounter + 1 + read.2)
    (read.1 ++ later.1, later.2)
  else ([], byteCounter)
termination_by partLength - byteCounter

theorem le_readPart (receivedBytes : List UInt8) (ssid : Option UInt8)
    (partLength byteCounter : Nat) :
    byteCounter ≤ (readPart receivedBytes ssid partLength byteCounter).2 := by
  fun_induction readPart receivedBytes ssid partLength byteCounter with
  | case1 byteCounter inside read later ih => exact Nat.le_trans (by omega) ih
  | case2 => exact Nat.le_refl _

/-- The outer loop. The counter is behind the ids when the length is added to it, which makes
`partLength` a position, and never negative. -/
def readParts (receivedBytes : List UInt8) (byteCounter : Nat) : List PageEvent :=
  if _ : byteCounter < receivedBytes.length then
    let partLength := receivedBytes[byteCounter].toNat + (byteCounter + 3) - 2
    let part := readPart receivedBytes receivedBytes[byteCounter + 2]? partLength (byteCounter + 3)
    part.1 ++ readParts receivedBytes part.2
  else []
termination_by receivedBytes.length - byteCounter
decreasing_by
  have := le_readPart receivedBytes receivedBytes[byteCounter + 2]?
    (receivedBytes[byteCounter].toNat + (byteCounter + 3) - 2) (byteCounter + 3)
  omega

/-- What a call of `processReceivedBytes` does, from the first byte on. -/
def eventsOf (receivedBytes : List UInt8) : List PageEvent := readParts receivedBytes 0

end Page

/-! ## Messages -/

/-- The groups of three that commands 1 and 2 are about. -/
inductive SwitchGroup where
  | valve
  | pump
deriving DecidableEq

def SwitchGroup.label : SwitchGroup → UInt8
  | valve => 1
  | pump => 2

def SwitchGroup.element : SwitchGroup → Fin 3 → Fin 20
  | valve, index => ⟨1 + index, by omega⟩
  | pump, index => ⟨4 + index, by omega⟩

/-- Values of one byte. -/
inductive ByteItem where
  | programDuration
  | cleaningDuration
  | pump1Duration
  | pump2Duration
deriving DecidableEq

namespace ByteItem

def label : ByteItem → UInt8
  | programDuration => 4
  | cleaningDuration => 5
  | pump1Duration => 6
  | pump2Duration => 7

def element : ByteItem → Fin 20
  | programDuration => 8
  | cleaningDuration => 9
  | pump1Duration => 10
  | pump2Duration => 11

def suffix : ByteItem → String
  | cleaningDuration => "s"
  | _ => "m"

end ByteItem

/-- Values of two bytes, in base 255. -/
inductive WordItem where
  | pump1Volume
  | pump2Volume
  | pump1PulsesPerLiter
  | pump2PulsesPerLiter
  | pump1Delivered
  | pump2Delivered
deriving DecidableEq

namespace WordItem

def label : WordItem → UInt8
  | pump1Volume => 8
  | pump2Volume => 9
  | pump1PulsesPerLiter => 10
  | pump2PulsesPerLiter => 11
  | pump1Delivered => 12
  | pump2Delivered => 13

def element : WordItem → Fin 20
  | pump1Volume => 12
  | pump2Volume => 13
  | pump1PulsesPerLiter => 14
  | pump2PulsesPerLiter => 15
  | pump1Delivered => 16
  | pump2Delivered => 17

def suffix : WordItem → String
  | pump1PulsesPerLiter => "/L"
  | pump2PulsesPerLiter => "/L"
  | _ => "ml"

end WordItem

/-- A command that the page knows, with its operands. -/
inductive PageCommand where
  /-- The generator, from the system with the id 1; a test value, from the others. -/
  | test (value : UInt8)
  | switch (group : SwitchGroup) (index : Fin 3) (state : UInt8)
  /-- A valve or pump that the page does not have. -/
  | noSwitch (group : SwitchGroup) (index : UInt8) (other : index ≠ 1 ∧ index ≠ 2 ∧ index ≠ 3)
  | program (value : UInt8)
  | byte (item : ByteItem) (value : UInt8)
  | word (item : WordItem) (high low : UInt8)
  | programTime (high low : UInt8)

namespace PageCommand

/-- The command and its operands as they are sent. -/
def bytes : PageCommand → List UInt8
  | test value => [0, value]
  | switch group index state => [group.label, UInt8.ofNat (index + 1), state]
  | noSwitch group index _ => [group.label, index]
  | program value => [3, value]
  | byte item value => [item.label, value]
  | word item high low => [item.label, high, low]
  | programTime high low => [14, high, low]

def stateText (state : UInt8) : String := if state = 0 then "Isklucen" else "Ukljucen"

/-- What the command is to do, from a system with this id. -/
def events (ssid : UInt8) : PageCommand → List PageEvent
  | test value =>
      if ssid = 1 then [.shows 0 (stateText value)] else [.shows 19 (toString value.toNat)]
  | switch group index state => [.shows (group.element index) (stateText state)]
  | noSwitch _ _ _ => []
  | program value => [.shows 7 (if value = 0 then "Zavrsen" else toString value.toNat)]
  | byte item value => [.shows item.element (toString value.toNat ++ item.suffix)]
  | word item high low =>
      [.shows item.element (toString (high.toNat * 255 + low.toNat) ++ item.suffix)]
  | programTime high low => [.times (some (high.toNat * 255 + low.toNat))]

theorem one_le_length (command : PageCommand) : 1 ≤ command.bytes.length := by
  cases command <;> simp [bytes]

end PageCommand

/-- A command that the page does not know, and what is behind it in its message. -/
structure UnknownCommand where
  command : UInt8
  rest : List UInt8
  unknown : 14 < command

def UnknownCommand.bytes (unknown : UnknownCommand) : List UInt8 :=
  unknown.command :: unknown.rest

/-- What is behind the ids of a message. -/
def messageBody (commands : List PageCommand) (unknown : Option UnknownCommand) : List UInt8 :=
  commands.flatMap PageCommand.bytes ++ unknown.elim [] UnknownCommand.bytes

/-- A message of an Arduino for the PC: the ids of its sender and the commands, which fit with the
four ids into the length byte. -/
structure WebMessage where
  smid : UInt8
  ssid : UInt8
  commands : List PageCommand
  unknown : Option UnknownCommand
  fits : 4 + (messageBody commands unknown).length ≤ 255

namespace WebMessage

variable (message : WebMessage)

def body : List UInt8 := messageBody message.commands message.unknown

/-- The message as the Arduino posts it. -/
def bytes : List UInt8 :=
  [UInt8.ofNat (4 + message.body.length), Relay.pcPhpAndMainArduinoMid, Relay.pcSid,
    message.smid, message.ssid] ++ message.body

/-- The message as the browser gets it, without the ids of the receiver. -/
def sent : List UInt8 :=
  [UInt8.ofNat (2 + message.body.length), message.smid, message.ssid] ++ message.body

/-- What the message is to do: the known commands in order, and at an unknown one nothing but to
pass over the rest of the message. -/
def events : List PageEvent :=
  message.commands.flatMap (PageCommand.events message.ssid) ++
    message.unknown.elim [] fun unknown => [.skips unknown.rest]

theorem length_body : message.body.length =
    (message.commands.flatMap PageCommand.bytes).length +
      (message.unknown.elim [] UnknownCommand.bytes).length := by
  unfold body messageBody
  rw [List.length_append]

theorem length_sent : message.sent.length = 3 + message.body.length := by
  unfold sent
  rw [List.length_append]
  rfl

theorem flatMap_sent_ne_nil {messages : List WebMessage} (others : messages ≠ []) :
    messages.flatMap sent ≠ [] := by
  obtain ⟨message, rest, rfl⟩ := List.exists_cons_of_ne_nil others
  simp [sent]

end WebMessage

/-! ## The relay -/

namespace Relay

variable {files : RelayFiles} {message : WebMessage} {messages : List WebMessage}
  {fileBytes : List UInt8}

/-- A part of the file loses the ids of the receiver. -/
theorem sendParts_message :
    sendParts (message.bytes ++ fileBytes) = message.sent ++ sendParts fileBytes := by
  have fits : 4 + message.body.length ≤ 255 := message.fits
  have long : (UInt8.ofNat (4 + message.body.length)).toNat - 2 = 2 + message.body.length := by
    rw [UInt8.toNat_ofNat']
    omega
  have shorter : UInt8.ofNat (4 + message.body.length) - 2 =
      UInt8.ofNat (2 + message.body.length) := by
    have two : (2 : UInt8).toNat = 2 := rfl
    apply UInt8.toNat_inj.mp
    rw [UInt8.toNat_sub, UInt8.toNat_ofNat', UInt8.toNat_ofNat', two]
    omega
  unfold WebMessage.bytes WebMessage.sent
  rw [List.append_assoc, List.cons_append, sendParts, long, shorter]
  simp [Nat.add_comm 2]

theorem sendParts_messages (messages : List WebMessage) :
    sendParts (messages.flatMap WebMessage.bytes) = messages.flatMap WebMessage.sent := by
  induction messages with
  | nil => simp [sendParts]
  | cons message rest ih =>
      rw [List.flatMap_cons, sendParts_message, ih, List.flatMap_cons]

@[simp] theorem sendPcBytesToArduino_arduino :
    (sendPcBytesToArduino files).1.arduino = files.arduino := by
  unfold sendPcBytesToArduino
  split <;> rfl

/-- A message of an Arduino is appended to the file `arduino`: it is no poll. -/
theorem serve_message (message : WebMessage) (files : RelayFiles) :
    (serve message.bytes files).1.arduino = some (files.arduino.getD [] ++ message.bytes) := by
  have fits : 4 + message.body.length ≤ 255 := message.fits
  have forPc : ForPc message.bytes := ⟨rfl, rfl⟩
  have long : message.bytes[0]? ≠ some 2 := by
    intro poll
    have two := congrArg UInt8.toNat (Option.some.inj poll)
    rw [UInt8.toNat_ofNat'] at two
    change (4 + message.body.length) % 256 = 2 at two
    omega
  unfold serve
  rw [if_pos forPc]
  dsimp only
  rw [if_neg long, sendPcBytesToArduino_arduino]

/-- The messages posted one after another are in the file. -/
theorem filesAfter_messages (messages : List WebMessage) {first : List UInt8}
    (held : files.arduino = some first) :
    (filesAfter files (messages.map WebMessage.bytes)).arduino =
      some (first ++ messages.flatMap WebMessage.bytes) := by
  induction messages generalizing files first with
  | nil => rw [List.flatMap_nil, List.append_nil, ← held]; rfl
  | cons message rest ih =>
      have posted := serve_message message files
      rw [held] at posted
      rw [List.map_cons, filesAfter_cons, ih posted, List.flatMap_cons, Option.getD_some,
        List.append_assoc]

end Relay

/-! ## Reading -/

namespace Page

variable {receivedBytes behind : List UInt8} {byteCounter partLength : Nat} {ssid : UInt8}
  {messages : List WebMessage}

/-- What a read finds in bytes that are known to stand at the counter. -/
theorem getElem?_of_drop {bytes : List UInt8} (stands : receivedBytes.drop byteCounter = bytes)
    (index : Nat) : receivedBytes[byteCounter + index]? = bytes[index]? := by
  rw [← stands, List.getElem?_drop]

theorem drop_add_of_drop (bytes : List UInt8)
    (stands : receivedBytes.drop byteCounter = bytes ++ behind) :
    receivedBytes.drop (byteCounter + bytes.length) = behind := by
  rw [← List.drop_drop, stands, List.drop_left]

/-- A known command does what it is to do, and the counter goes behind its operands. -/
theorem readNext_command (ssid : UInt8) (partLength : Nat) (command : PageCommand)
    (stands : receivedBytes.drop byteCounter = command.bytes ++ behind) :
    readNext receivedBytes (some ssid) partLength byteCounter =
      (command.events ssid, command.bytes.length - 1) := by
  have zeroth := getElem?_of_drop stands 0
  have first := getElem?_of_drop stands 1
  have second := getElem?_of_drop stands 2
  unfold readNext
  rw [Nat.add_zero] at zeroth
  rw [zeroth, first, second]
  cases command with
  | test value =>
      by_cases system : ssid = 1
      · simp [PageCommand.bytes, PageCommand.events, readCommand, switchText,
          PageCommand.stateText, system]
      · simp [PageCommand.bytes, PageCommand.events, readCommand, byteText, system]
  | switch group index state =>
      have text : switchText (some state) = PageCommand.stateText state := by
        simp [switchText, PageCommand.stateText]
      have three : ∀ index : Fin 3, index = 0 ∨ index = 1 ∨ index = 2 := by decide
      obtain rfl | rfl | rfl := three index <;> cases group <;>
        simp [PageCommand.bytes, PageCommand.events, readCommand, readSwitch, text,
          SwitchGroup.label, SwitchGroup.element]
  | noSwitch group index other =>
      cases group <;>
        simp [PageCommand.bytes, PageCommand.events, readCommand, readSwitch, other,
          SwitchGroup.label]
  | program value => simp [PageCommand.bytes, PageCommand.events, readCommand, byteText]
  | byte item value => cases item <;> rfl
  | word item high low => cases item <;> rfl
  | programTime high low => rfl

theorem readCommand_unknown {system first second : Option UInt8} {command : UInt8}
    (unknown : 14 < command) : readCommand system command first second = none := by
  have large : 14 < command.toNat := unknown
  unfold readCommand
  split
  all_goals first | omega | rfl

/-- An unknown command passes over as many bytes as the end of its message has position. -/
theorem readNext_unknown (ssid : UInt8) (partLength : Nat) (unknown : UnknownCommand)
    (stands : receivedBytes.drop byteCounter = unknown.bytes ++ behind) :
    readNext receivedBytes (some ssid) partLength byteCounter =
      ([.skips ((unknown.rest ++ behind).take (partLength - 1))], partLength - 1) := by
  have command : receivedBytes[byteCounter]? = some unknown.command := by
    have zeroth := getElem?_of_drop stands 0
    rwa [Nat.add_zero] at zeroth
  have rest : receivedBytes.drop (byteCounter + 1) = unknown.rest ++ behind :=
    drop_add_of_drop [unknown.command] stands
  unfold readNext
  rw [command, Option.bind_some, readCommand_unknown unknown.unknown, rest]
  rfl

theorem readPart_turn {system : Option UInt8} {events : List PageEvent} {operands : Nat}
    (inside : byteCounter < partLength)
    (read : readNext receivedBytes system partLength byteCounter = (events, operands)) :
    readPart receivedBytes system partLength byteCounter =
      (events ++ (readPart receivedBytes system partLength (byteCounter + 1 + operands)).1,
        (readPart receivedBytes system partLength (byteCounter + 1 + operands)).2) := by
  rw [readPart, if_pos inside, read]

theorem readPart_end {system : Option UInt8} (ended : partLength ≤ byteCounter) :
    readPart receivedBytes system partLength byteCounter = ([], byteCounter) := by
  rw [readPart, if_neg (by omega)]

/-- The known commands of a message are done one after another. -/
theorem readPart_commands {commands : List PageCommand}
    (stands : receivedBytes.drop byteCounter = commands.flatMap PageCommand.bytes ++ behind)
    (fits : byteCounter + (commands.flatMap PageCommand.bytes).length ≤ partLength) :
    readPart receivedBytes (some ssid) partLength byteCounter =
      let later := readPart receivedBytes (some ssid) partLength
        (byteCounter + (commands.flatMap PageCommand.bytes).length)
      (commands.flatMap (PageCommand.events ssid) ++ later.1, later.2) := by
  induction commands generalizing byteCounter with
  | nil => rfl
  | cons command rest ih =>
      have one := PageCommand.one_le_length command
      rw [List.flatMap_cons, List.append_assoc] at stands
      rw [List.flatMap_cons, List.length_append] at fits
      have read := readNext_command ssid partLength command stands
      have next : byteCounter + 1 + (command.bytes.length - 1) =
          byteCounter + command.bytes.length := by omega
      rw [readPart_turn (by omega) read, next, ih (drop_add_of_drop _ stands) (by omega)]
      simp only [List.flatMap_cons, List.length_append, List.append_assoc, Nat.add_assoc]

/-! ## Messages in a reply -/

variable {message : WebMessage}

theorem readParts_turn {length : UInt8} (found : receivedBytes[byteCounter]? = some length) :
    readParts receivedBytes byteCounter =
      let part := readPart receivedBytes receivedBytes[byteCounter + 2]?
        (length.toNat + (byteCounter + 3) - 2) (byteCounter + 3)
      part.1 ++ readParts receivedBytes part.2 := by
  obtain ⟨inside, value⟩ := List.getElem?_eq_some_iff.mp found
  rw [readParts, dif_pos inside, value]

theorem readParts_end (ended : receivedBytes.length ≤ byteCounter) :
    readParts receivedBytes byteCounter = [] := by
  rw [readParts, dif_neg (by omega)]

/-- The length byte of a message is its end, once the counter is added. -/
theorem readParts_message (stands : receivedBytes.drop byteCounter = message.sent ++ behind) :
    readParts receivedBytes byteCounter =
      let part := readPart receivedBytes (some message.ssid)
        (byteCounter + 3 + message.body.length) (byteCounter + 3)
      part.1 ++ readParts receivedBytes part.2 := by
  have fits : 4 + message.body.length ≤ 255 := message.fits
  have length : receivedBytes[byteCounter]? = some (UInt8.ofNat (2 + message.body.length)) :=
    getElem?_of_drop stands 0
  have ssid : receivedBytes[byteCounter + 2]? = some message.ssid := getElem?_of_drop stands 2
  have partLength : (UInt8.ofNat (2 + message.body.length)).toNat + (byteCounter + 3) - 2 =
      byteCounter + 3 + message.body.length := by
    rw [UInt8.toNat_ofNat']
    omega
  rw [readParts_turn length, ssid, partLength]

/-- Without an unknown command the message is read to its end and no further. -/
theorem readParts_known (stands : receivedBytes.drop byteCounter = message.sent ++ behind)
    (known : message.unknown = none) :
    readParts receivedBytes byteCounter =
      message.events ++ readParts receivedBytes (byteCounter + message.sent.length) := by
  have body : message.body = message.commands.flatMap PageCommand.bytes := by
    unfold WebMessage.body messageBody
    rw [known, Option.elim_none, List.append_nil]
  have events : message.events = message.commands.flatMap (PageCommand.events message.ssid) := by
    unfold WebMessage.events
    rw [known, Option.elim_none, List.append_nil]
  have commands : receivedBytes.drop (byteCounter + 3) =
      message.commands.flatMap PageCommand.bytes ++ behind := by
    rw [← body]
    exact drop_add_of_drop [_, _, _] stands
  rw [readParts_message stands, body, readPart_commands commands (Nat.le_refl _),
    readPart_end (Nat.le_refl _), WebMessage.length_sent, body, events]
  simp [Nat.add_assoc]

/-- At an unknown command the reading passes over more than the rest of the message: the end of
the message, a position, is taken for a distance. -/
theorem readParts_unknown {unknown : UnknownCommand}
    (stands : receivedBytes.drop byteCounter = message.sent ++ behind)
    (found : message.unknown = some unknown) :
    ∃ passed next, unknown.rest.length < passed ∧ byteCounter + message.sent.length ≤ next ∧
      readParts receivedBytes byteCounter =
        message.commands.flatMap (PageCommand.events message.ssid) ++
          .skips ((unknown.rest ++ behind).take passed) :: readParts receivedBytes next := by
  have length := message.length_body
  rw [found] at length
  change _ = _ + (unknown.rest.length + 1) at length
  have body : message.body =
      message.commands.flatMap PageCommand.bytes ++ unknown.bytes := by
    unfold WebMessage.body messageBody
    rw [found]
    rfl
  have commands : receivedBytes.drop (byteCounter + 3) =
      message.commands.flatMap PageCommand.bytes ++ (unknown.bytes ++ behind) := by
    rw [← List.append_assoc, ← body]
    exact drop_add_of_drop [_, _, _] stands
  have read := readNext_unknown message.ssid (byteCounter + 3 + message.body.length) unknown
    (drop_add_of_drop _ commands)
  refine ⟨byteCounter + 3 + message.body.length - 1,
    byteCounter + 3 + (message.commands.flatMap PageCommand.bytes).length + 1 +
      (byteCounter + 3 + message.body.length - 1), by omega, ?_, ?_⟩
  · rw [WebMessage.length_sent]
    omega
  · rw [readParts_message stands, readPart_commands commands (by omega),
      readPart_turn (by omega) read, readPart_end (by omega)]
    simp only [List.append_nil, List.append_assoc, List.singleton_append]

/-- Messages behind an unknown command are not read as they are. -/
theorem skips_ne {rest : List UInt8} {passed : Nat} (more : rest.length < passed)
    (behind_ne : behind ≠ []) : (rest ++ behind).take passed ≠ rest := by
  intro same
  have lengths := congrArg List.length same
  have positive := List.length_pos_iff.mpr behind_ne
  rw [List.length_take, List.length_append] at lengths
  omega

/-- The messages of a reply are read as they are exactly when an unknown command stands in none
but the last. -/
theorem readParts_iff (stands : receivedBytes.drop byteCounter = messages.flatMap WebMessage.sent) :
    readParts receivedBytes byteCounter = messages.flatMap WebMessage.events ↔
      ∀ message ∈ messages.dropLast, message.unknown = none := by
  induction messages generalizing byteCounter with
  | nil =>
      have ended : receivedBytes.length ≤ byteCounter := List.drop_eq_nil_iff.mp stands
      simp [readParts_end ended]
  | cons message rest ih =>
      rw [List.flatMap_cons] at stands
      have later := ih (drop_add_of_drop _ stands)
      cases found : message.unknown with
      | none =>
          rw [readParts_known stands found, List.flatMap_cons, List.append_cancel_left_eq, later]
          by_cases last : rest = []
          · simp [last]
          · rw [List.dropLast_cons_of_ne_nil last, List.forall_mem_cons]
            exact ⟨fun known => ⟨found, known⟩, And.right⟩
      | some unknown =>
          obtain ⟨passed, next, more, beyond, read⟩ := readParts_unknown stands found
          have events : message.events =
              message.commands.flatMap (PageCommand.events message.ssid) ++
                [.skips unknown.rest] := by
            unfold WebMessage.events
            rw [found]
            rfl
          rw [read, List.flatMap_cons, events, List.append_assoc, List.append_cancel_left_eq,
            List.singleton_append, List.cons.injEq, PageEvent.skips.injEq]
          by_cases last : rest = []
          · -- There is nothing behind the message that could be passed over.
            subst last
            have total := congrArg List.length stands
            rw [List.length_drop, List.flatMap_nil, List.append_nil] at total
            rw [List.flatMap_nil, List.append_nil, List.take_of_length_le (Nat.le_of_lt more),
              readParts_end (by omega)]
            simp
          · refine iff_of_false (fun same => ?_) fun known => ?_
            · exact skips_ne more (WebMessage.flatMap_sent_ne_nil last) same.1
            · rw [List.dropLast_cons_of_ne_nil last] at known
              have none := known message (List.mem_cons_self ..)
              rw [found] at none
              exact absurd none (Option.some_ne_none unknown)

end Page

open Relay

/-- The answer that PHP makes itself when no message has come. -/
def nothingReceived : WebMessage where
  smid := pcPhpAndMainArduinoMid
  ssid := phpSid
  commands := []
  unknown := some { command := getBytes, rest := [chr 0], unknown := by decide }
  fits := by decide

/-- The messages of a reply to the PC. -/
def replyMessages (messages : List WebMessage) : List WebMessage :=
  if messages = [] then [nothingReceived] else messages

theorem sendArduinoBytesToPc_messages {pc : Option (List UInt8)} {messages : List WebMessage} :
    (sendArduinoBytesToPc (filesAfter ⟨pc, none⟩ (messages.map WebMessage.bytes))).2 =
      (replyMessages messages).flatMap WebMessage.sent := by
  unfold sendArduinoBytesToPc replyMessages
  cases messages with
  | nil => rfl
  | cons message rest =>
      have first : (serve message.bytes ⟨pc, none⟩).1.arduino = some message.bytes :=
        serve_message message _
      have held := filesAfter_messages rest first
      rw [List.map_cons, filesAfter_cons, held, if_neg (List.cons_ne_nil _ _)]
      exact sendParts_messages (message :: rest)

/-- Messages that Arduinos post one after another, as the browser reads the reply with them: the
known commands of every message in order, where an unknown one passes over the rest of its own
message and nothing else: exactly when an unknown command stands in no message but the last. -/
theorem web_relay_to_browser (pc : Option (List UInt8)) (messages : List WebMessage) :
    Page.eventsOf
        (sendArduinoBytesToPc (filesAfter ⟨pc, none⟩ (messages.map WebMessage.bytes))).2 =
      (replyMessages messages).flatMap WebMessage.events ↔
    ∀ message ∈ messages.dropLast, message.unknown = none := by
  unfold Page.eventsOf
  rw [sendArduinoBytesToPc_messages, Page.readParts_iff List.drop_zero]
  unfold replyMessages
  split
  · rename_i empty
    simp [empty]
  · rfl

/-- The program that runs. -/
def programMessage : WebMessage where
  smid := 0
  ssid := 1
  commands := [.program 1]
  unknown := none
  fits := by decide

/-- A message with a command of a later version, and one that tells the program. -/
def swallowedMessages : List WebMessage :=
  [{ smid := 0
     ssid := 1
     commands := []
     unknown := some { command := 15, rest := [], unknown := by decide }
     fits := by decide }, programMessage]

/-- The second message is passed over with the first. -/
theorem web_relay_to_browser_swallowed :
    Page.eventsOf
        (sendArduinoBytesToPc
          (filesAfter ⟨none, none⟩ (swallowedMessages.map WebMessage.bytes))).2 ≠
      (replyMessages swallowedMessages).flatMap WebMessage.events := by
  unfold Page.eventsOf
  rw [sendArduinoBytesToPc_messages]
  intro same
  have known := (Page.readParts_iff List.drop_zero).mp same
  exact absurd (known _ (List.mem_cons_self ..)) (Option.some_ne_none _)

end BlueberryIrrigation
