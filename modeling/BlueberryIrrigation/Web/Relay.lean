import BlueberryIrrigation.Semantics.Mailbox

/-!
# The web relay (`prog.php`)

The browser and the Arduino both post to `prog.php`, which keeps what is posted for either in a
file until the other one comes. Requests are served one at a time, under a file lock.
-/

namespace BlueberryIrrigation

open Semantics

/-- The files `pc`, with the bytes for the Arduino, and `arduino`, with those for the PC, where
they exist. -/
structure RelayFiles where
  pc : Option (List UInt8)
  arduino : Option (List UInt8)

namespace Relay

def pcPhpAndMainArduinoMid : UInt8 := 0
def pcSid : UInt8 := 255
def phpSid : UInt8 := 254
def startAndEndByte : UInt8 := 255

/-- The constants of `CommandEnum`. -/
def checkIsSentBytesReaded : UInt8 := 0
def deleteSentBytes : UInt8 := 1
def getBytes : UInt8 := 254

/-- `chr`, which takes its argument modulo 256. -/
def chr (code : Nat) : UInt8 := UInt8.ofNat code

/-! ## The replies -/

/-- `sendPhpBytes`; an id that the request does not have is the empty string. -/
def sendPhpBytes (rmid rsid : Option UInt8) (bytes : List UInt8) : List UInt8 :=
  if rmid = some pcPhpAndMainArduinoMid ∧ rsid = some pcSid then
    chr (bytes.length + 2) :: pcPhpAndMainArduinoMid :: phpSid :: bytes
  else
    let bytesLength := bytes.length + 4
    [startAndEndByte, chr (bytesLength + 1), chr bytesLength] ++ rmid.toList ++ rsid.toList ++
      [pcPhpAndMainArduinoMid, phpSid] ++ bytes ++ [startAndEndByte]

/-- `sendPcBytesToArduino` -/
def sendPcBytesToArduino (files : RelayFiles) : RelayFiles × List UInt8 :=
  match files.pc with
  | some fileBytes =>
      ({ files with pc := none },
        startAndEndByte :: chr fileBytes.length :: (fileBytes ++ [startAndEndByte]))
  | none => (files, [startAndEndByte, chr 0, startAndEndByte])

/-- The loop of `sendArduinoBytesToPc` over what is left of the file: each part without the ids of
its receiver, and with the length that remains. Reads behind the end give nothing. -/
def sendParts : List UInt8 → List UInt8
  | [] => []
  | fileBytesPartLength :: rest =>
      (fileBytesPartLength - 2) ::
        ((rest.drop 2).take (fileBytesPartLength.toNat - 2) ++
          sendParts ((rest.drop 2).drop (fileBytesPartLength.toNat - 2)))
termination_by fileBytes => fileBytes.length
decreasing_by simp only [List.length_drop, List.length_cons]; omega

/-- `sendArduinoBytesToPc` -/
def sendArduinoBytesToPc (files : RelayFiles) : RelayFiles × List UInt8 :=
  match files.arduino with
  | some fileBytes => ({ files with arduino := none }, sendParts fileBytes)
  | none => (files, sendPhpBytes (some pcPhpAndMainArduinoMid) (some pcSid) [getBytes, chr 0])

/-! ## The dispatch -/

section

variable (request : List UInt8)

/-- The receiver of a request is the PC: the Arduino posts it. -/
abbrev ForPc : Prop := request[1]? = some pcPhpAndMainArduinoMid ∧ request[2]? = some pcSid

/-- The receiver of a request is PHP itself. -/
abbrev ForPhp : Prop := request[1]? = some pcPhpAndMainArduinoMid ∧ request[2]? = some phpSid

/-- The sender of a command to PHP is the PC. -/
abbrev FromPc : Prop := request[3]? = some pcPhpAndMainArduinoMid ∧ request[4]? = some pcSid

/-- Any other receiver is an Arduino: the PC posts it. -/
abbrev ForArduino : Prop := ¬ ForPc request ∧ ¬ ForPhp request

/-- `processPhpCommands` -/
def processPhpCommands (files : RelayFiles) : RelayFiles × List UInt8 :=
  let smid := request[3]?
  let ssid := request[4]?
  let command := request[5]?
  if command = some getBytes then
    if FromPc request then sendArduinoBytesToPc files else sendPcBytesToArduino files
  else if command = some checkIsSentBytesReaded then
    let file := if FromPc request then files.pc else files.arduino
    let answer := if file.isSome then chr 0 else chr 1
    (files, sendPhpBytes smid ssid [checkIsSentBytesReaded, answer])
  else if command = some deleteSentBytes then
    -- The PC gets no answer.
    if FromPc request then ({ files with pc := none }, [])
    else
      let answer := if files.arduino.isSome then chr 1 else chr 0
      ({ files with arduino := none }, sendPhpBytes smid ssid [deleteSentBytes, answer])
  else (files, [])

/-- What `prog.php` does with a request, and its reply. -/
def serve (files : RelayFiles) : RelayFiles × List UInt8 :=
  if ForPc request then
    -- A message of two bytes only asks for what is there.
    let posted := { files with arduino := some (files.arduino.getD [] ++ request) }
    sendPcBytesToArduino (if request[0]? = some 2 then files else posted)
  else if ForPhp request then processPhpCommands request files
  else sendArduinoBytesToPc { files with pc := some (files.pc.getD [] ++ request) }

/-- The reply is for the Arduino side and made of what the PC has posted. -/
abbrev Delivers : Prop :=
  ForPc request ∨ ForPhp request ∧ request[5]? = some getBytes ∧ ¬ FromPc request

/-- The reply is for the Arduino side. -/
abbrev RepliesToArduino : Prop :=
  Delivers request ∨
    ForPhp request ∧ request[5]? = some checkIsSentBytesReaded ∧ ¬ FromPc request

abbrev Deletes : Prop := ForPhp request ∧ request[5]? = some deleteSentBytes

end

/-! ## Runs -/

/-- A request that was served. -/
structure Served where
  request : List UInt8
  reply : List UInt8

/-- The requests of a run with their replies, the first one first. -/
def served : RelayFiles → List (List UInt8) → List Served
  | _, [] => []
  | files, request :: rest =>
      ⟨request, (serve request files).2⟩ :: served (serve request files).1 rest

/-- The files after these requests. -/
def filesAfter (files : RelayFiles) (requests : List (List UInt8)) : RelayFiles :=
  requests.foldl (fun files request => (serve request files).1) files

/-- What stands between the two first bytes of a reply and its last one. -/
def payload (reply : List UInt8) : List UInt8 := (reply.drop 2).dropLast

/-- What the Arduino side was sent of the PC's bytes. -/
def sentToArduino (run : List Served) : List UInt8 :=
  run.flatMap fun exchange => if Delivers exchange.request then payload exchange.reply else []

/-- What was posted for the Arduino. -/
def postedForArduino (requests : List (List UInt8)) : List UInt8 :=
  requests.flatMap fun request => if ForArduino request then request else []

/-- A start byte, the length of the payload, the payload and an end byte. -/
def Framed (reply : List UInt8) : Prop :=
  ∃ length payload, reply = startAndEndByte :: length :: (payload ++ [startAndEndByte]) ∧
    length.toNat = payload.length

/-- What the request does to the mailbox `pc`. -/
def mailboxAction (request : List UInt8) : MailboxAction UInt8 :=
  if Delivers request then .collect
  else if ForArduino request then .post request
  else .idle

variable {files : RelayFiles} {request : List UInt8} {requests : List (List UInt8)}

/-! ## One request -/

@[simp] theorem sendPcBytesToArduino_pc : (sendPcBytesToArduino files).1.pc = none := by
  unfold sendPcBytesToArduino
  split
  · rfl
  · assumption

/-- Without the file the frame is that of no bytes. -/
theorem sendPcBytesToArduino_reply : (sendPcBytesToArduino files).2 =
    startAndEndByte :: chr (files.pc.getD []).length ::
      (files.pc.getD [] ++ [startAndEndByte]) := by
  unfold sendPcBytesToArduino
  split <;> simp [*]

@[simp] theorem sendArduinoBytesToPc_pc : (sendArduinoBytesToPc files).1.pc = files.pc := by
  unfold sendArduinoBytesToPc
  split <;> rfl

theorem not_forPhp_of_forPc (forPc : ForPc request) : ¬ ForPhp request := by
  rintro ⟨-, forPhp⟩
  rw [forPc.2] at forPhp
  exact absurd forPhp (by decide)

theorem not_forPc_of_forPhp (forPhp : ForPhp request) : ¬ ForPc request :=
  fun forPc => not_forPhp_of_forPc forPc forPhp

/-- A request that delivers runs `sendPcBytesToArduino`, with the file `pc` as it was. -/
theorem serve_of_delivers (files : RelayFiles) (delivers : Delivers request) :
    ∃ posted : RelayFiles, posted.pc = files.pc ∧
      serve request files = sendPcBytesToArduino posted := by
  obtain forPc | ⟨forPhp, command, other⟩ := delivers
  · unfold serve
    rw [if_pos forPc]
    refine ⟨_, ?_, rfl⟩
    split <;> rfl
  · refine ⟨files, rfl, ?_⟩
    unfold serve
    rw [if_neg (not_forPc_of_forPhp forPhp), if_pos forPhp]
    unfold processPhpCommands
    rw [if_pos command, if_neg other]

/-- A request for the Arduino is appended to the file `pc`. -/
theorem serve_of_forArduino (forArduino : ForArduino request) :
    serve request files =
      sendArduinoBytesToPc { files with pc := some (files.pc.getD [] ++ request) } := by
  unfold serve
  rw [if_neg forArduino.1, if_neg forArduino.2]

/-- Any other command to PHP leaves the file `pc` alone. -/
theorem processPhpCommands_pc (keeps : request[5]? ≠ some deleteSentBytes)
    (other : ¬ (request[5]? = some getBytes ∧ ¬ FromPc request)) :
    (processPhpCommands request files).1.pc = files.pc := by
  by_cases poll : request[5]? = some getBytes
  · have fromPc : FromPc request := not_not.mp fun sender => other ⟨poll, sender⟩
    unfold processPhpCommands
    rw [if_pos poll, if_pos fromPc]
    exact sendArduinoBytesToPc_pc
  · by_cases check : request[5]? = some checkIsSentBytesReaded
    · unfold processPhpCommands
      rw [if_neg poll, if_pos check]
    · unfold processPhpCommands
      rw [if_neg poll, if_neg check, if_neg keeps]

theorem forArduino_not_delivers (forArduino : ForArduino request) : ¬ Delivers request := by
  rintro (forPc | ⟨forPhp, -⟩)
  · exact forArduino.1 forPc
  · exact forArduino.2 forPhp

theorem posted_mailboxAction :
    (mailboxAction request).posted = if ForArduino request then request else [] := by
  unfold mailboxAction
  split
  · rename_i delivers
    rw [if_neg fun forArduino => forArduino_not_delivers forArduino delivers]
    rfl
  · split <;> rfl

theorem taken_mailboxAction {held : List UInt8} :
    (mailboxAction request).taken held = if Delivers request then some held else none := by
  unfold mailboxAction
  split
  · rfl
  · split <;> rfl

/-- A request treats the file `pc` as a mailbox. -/
theorem serve_pc (keeps : ¬ Deletes request) :
    (serve request files).1.pc.getD [] = (mailboxAction request).apply (files.pc.getD []) := by
  unfold mailboxAction
  split
  · rename_i delivers
    obtain ⟨posted, -, same⟩ := serve_of_delivers files delivers
    rw [same, sendPcBytesToArduino_pc]
    rfl
  · rename_i undelivered
    split
    · rename_i forArduino
      rw [serve_of_forArduino forArduino, sendArduinoBytesToPc_pc]
      rfl
    · rename_i other
      -- A command to PHP, neither a poll of the Arduino nor a deletion.
      have forPc : ¬ ForPc request := fun forPc => undelivered (.inl forPc)
      have forPhp : ForPhp request := not_not.mp fun notPhp => other ⟨forPc, notPhp⟩
      unfold serve
      rw [if_neg forPc, if_pos forPhp, processPhpCommands_pc]
      · rfl
      · exact fun command => keeps ⟨forPhp, command⟩
      · exact fun poll => undelivered (.inr ⟨forPhp, poll⟩)

/-- A delivery is the frame of the mailbox. -/
theorem serve_reply (delivers : Delivers request) : (serve request files).2 =
    startAndEndByte :: chr (files.pc.getD []).length ::
      (files.pc.getD [] ++ [startAndEndByte]) := by
  obtain ⟨posted, pc, same⟩ := serve_of_delivers files delivers
  rw [same, sendPcBytesToArduino_reply, pc]

/-- The length byte is the length up to 255 bytes. -/
theorem framed_iff {bytes : List UInt8} :
    Framed (startAndEndByte :: chr bytes.length :: (bytes ++ [startAndEndByte])) ↔
      bytes.length ≤ 255 := by
  have counted : (chr bytes.length).toNat = bytes.length % 256 := UInt8.toNat_ofNat'
  constructor
  · rintro ⟨length, payload, same, exact⟩
    simp only [List.cons.injEq, true_and] at same
    obtain ⟨rfl, same⟩ := same
    rw [← List.append_cancel_right same, counted] at exact
    omega
  · intro few
    refine ⟨_, bytes, rfl, ?_⟩
    rw [counted]
    omega

/-- The answers of PHP to the Arduino side are framed. -/
theorem framed_sendPhpBytes {rmid rsid : Option UInt8} {first second : UInt8}
    (receiver : rmid.isSome) (system : rsid.isSome)
    (other : ¬ (rmid = some pcPhpAndMainArduinoMid ∧ rsid = some pcSid)) :
    Framed (sendPhpBytes rmid rsid [first, second]) := by
  unfold sendPhpBytes
  rw [if_neg other]
  obtain ⟨rmid, rfl⟩ := Option.isSome_iff_exists.mp receiver
  obtain ⟨rsid, rfl⟩ := Option.isSome_iff_exists.mp system
  exact ⟨chr 7, [chr 6, rmid, rsid, pcPhpAndMainArduinoMid, phpSid, first, second], rfl, rfl⟩

/-- A request that asks whether its bytes were read is answered in a frame. -/
theorem serve_reply_check (forPhp : ForPhp request)
    (command : request[5]? = some checkIsSentBytesReaded) (other : ¬ FromPc request) :
    Framed (serve request files).2 := by
  obtain ⟨long, -⟩ := List.getElem?_eq_some_iff.mp command
  have third : request[3]?.isSome := by
    rw [List.getElem?_eq_getElem (by omega)]
    rfl
  have fourth : request[4]?.isSome := by
    rw [List.getElem?_eq_getElem (by omega)]
    rfl
  unfold serve
  rw [if_neg (not_forPc_of_forPhp forPhp), if_pos forPhp]
  unfold processPhpCommands
  rw [if_neg (by rw [command]; decide), if_pos command]
  exact framed_sendPhpBytes third fourth other

/-! ## Every run -/

@[simp] theorem served_nil : served files [] = [] := rfl

@[simp] theorem served_cons : served files (request :: requests) =
    ⟨request, (serve request files).2⟩ :: served (serve request files).1 requests := rfl

@[simp] theorem filesAfter_cons :
    filesAfter files (request :: requests) = filesAfter (serve request files).1 requests := rfl

theorem postedForArduino_eq :
    postedForArduino requests = (requests.map mailboxAction).flatMap MailboxAction.posted := by
  simp only [postedForArduino, List.flatMap_map, posted_mailboxAction]

theorem filesAfter_pc (keeps : ∀ request ∈ requests, ¬ Deletes request) :
    (filesAfter files requests).pc.getD [] =
      MailboxAction.left (files.pc.getD []) (requests.map mailboxAction) := by
  induction requests generalizing files with
  | nil => rfl
  | cons request rest ih =>
      obtain ⟨first, others⟩ := List.forall_mem_cons.mp keeps
      rw [filesAfter_cons, ih others, serve_pc first]
      rfl

/-- The payloads are what is collected. -/
theorem sentToArduino_served (keeps : ∀ request ∈ requests, ¬ Deletes request) :
    sentToArduino (served files requests) =
      (MailboxAction.collected (files.pc.getD []) (requests.map mailboxAction)).flatten := by
  induction requests generalizing files with
  | nil => rfl
  | cons request rest ih =>
      obtain ⟨first, others⟩ := List.forall_mem_cons.mp keeps
      have later := @ih (serve request files).1 others
      unfold sentToArduino at later ⊢
      rw [served_cons, List.flatMap_cons, later, serve_pc first, List.map_cons,
        MailboxAction.collected_cons, List.flatten_append, taken_mailboxAction]
      split
      · rename_i delivers
        rw [serve_reply delivers]
        simp [payload]
      · rfl

/-- The replies are framed when no collection takes more than 255 bytes. -/
theorem framed_served (keeps : ∀ request ∈ requests, ¬ Deletes request) :
    (∀ exchange ∈ served files requests,
        RepliesToArduino exchange.request → Framed exchange.reply) ↔
      ∀ bytes ∈ MailboxAction.collected (files.pc.getD []) (requests.map mailboxAction),
        bytes.length ≤ 255 := by
  induction requests generalizing files with
  | nil => simp
  | cons request rest ih =>
      obtain ⟨first, others⟩ := List.forall_mem_cons.mp keeps
      rw [served_cons, List.forall_mem_cons, ih others, serve_pc first, List.map_cons,
        MailboxAction.collected_cons, List.forall_mem_append, taken_mailboxAction]
      refine and_congr_left fun _ => ?_
      split
      · rename_i delivers
        simp only [serve_reply delivers, framed_iff, Option.toList_some, List.forall_mem_singleton]
        exact ⟨fun framed => framed (.inl delivers), fun few _ => few⟩
      · rename_i undelivered
        refine ⟨fun _ => by simp, fun _ replies => ?_⟩
        obtain ⟨forPhp, command, other⟩ := replies.resolve_left undelivered
        exact serve_reply_check forPhp command other

/-- The bytes for the Arduino are all sent or kept, once and in order, whatever the frames say. -/
theorem pc_kept (files : RelayFiles) (keeps : ∀ request ∈ requests, ¬ Deletes request) :
    sentToArduino (served files requests) ++ (filesAfter files requests).pc.getD [] =
      files.pc.getD [] ++ postedForArduino requests := by
  rw [sentToArduino_served keeps, filesAfter_pc keeps, MailboxAction.collected_append_left,
    postedForArduino_eq]

end Relay

open Relay

/-- From a start without a file `pc`, the Arduino side is sent what was posted for it, in order,
and the rest is kept; and each of its replies is a frame with the right length: exactly when no
more than 255 bytes are posted for the Arduino between two deliveries. -/
theorem web_relay_to_arduino (arduino : Option (List UInt8)) (requests : List (List UInt8))
    (keeps : ∀ request ∈ requests, ¬ Deletes request) :
    (sentToArduino (served ⟨none, arduino⟩ requests) ++
          (filesAfter ⟨none, arduino⟩ requests).pc.getD [] = postedForArduino requests ∧
        ∀ exchange ∈ served ⟨none, arduino⟩ requests,
          RepliesToArduino exchange.request → Framed exchange.reply) ↔
      MailboxAction.WithinLimit 255 0 (requests.map mailboxAction) := by
  have kept := pc_kept ⟨none, arduino⟩ keeps
  rw [framed_served keeps, MailboxAction.collected_within]
  exact ⟨And.right, fun within => ⟨kept, within⟩⟩

/-- The page asks for fresh values. -/
def updateRequest : List UInt8 := [5, 0, 1, 0, 255, 15]

/-- The Arduino asks for what is there. -/
def arduinoPoll : List UInt8 := [2, 0, 255]

/-- Two requests of the page reach the Arduino with its next one. -/
theorem web_relay_to_arduino_updates :
    sentToArduino (served ⟨none, none⟩ [updateRequest, updateRequest, arduinoPoll]) ++
        (filesAfter ⟨none, none⟩ [updateRequest, updateRequest, arduinoPoll]).pc.getD [] =
      postedForArduino [updateRequest, updateRequest, arduinoPoll] ∧
    ∀ exchange ∈ served ⟨none, none⟩ [updateRequest, updateRequest, arduinoPoll],
      RepliesToArduino exchange.request → Framed exchange.reply :=
  (web_relay_to_arduino none [updateRequest, updateRequest, arduinoPoll] (by decide)).mpr
    (by decide)

/-- Of 43 requests, 258 bytes, the length byte says two. -/
theorem web_relay_to_arduino_overflow :
    ¬ (sentToArduino (served ⟨none, none⟩ (List.replicate 43 updateRequest ++ [arduinoPoll])) ++
          (filesAfter ⟨none, none⟩
            (List.replicate 43 updateRequest ++ [arduinoPoll])).pc.getD [] =
        postedForArduino (List.replicate 43 updateRequest ++ [arduinoPoll]) ∧
      ∀ exchange ∈ served ⟨none, none⟩ (List.replicate 43 updateRequest ++ [arduinoPoll]),
        RepliesToArduino exchange.request → Framed exchange.reply) := by
  rintro ⟨-, framed⟩
  have within := (framed_served (by decide)).mp framed
  rw [MailboxAction.collected_within] at within
  exact absurd within (by decide)

end BlueberryIrrigation
