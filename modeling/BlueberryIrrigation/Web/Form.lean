import BlueberryIrrigation.Semantics.Slot
import BlueberryIrrigation.Web.Stale
import Mathlib.Data.Fintype.Basic
import Mathlib.Tactic.FinCases

/-!
# What the page sends (`script.js`)

The inputs of the page make up a message of the same commands that the page reads. Until the next
turn of `ethernetLoop` posts it, the message stands in `sendBytes`, where the message of another
click takes its place.
-/

namespace BlueberryIrrigation

open Semantics

/-! ## The form -/

/-- The text of an input, of a length up to which a number of JavaScript has every value. -/
structure InputText where
  chars : List Char
  exact : chars.length ≤ 15

namespace InputText

def empty : InputText := ⟨[], Nat.zero_le _⟩

/-- `replaceAll(" ", "")` -/
def withoutBlanks (text : InputText) : List Char := text.chars.filter fun c => c ≠ ' '

/-- `/^\d+$/.test` -/
def IsAllNumbers (chars : List Char) : Prop := chars ≠ [] ∧ ∀ c ∈ chars, c.isDigit = true

instance decidableIsAllNumbers (chars : List Char) : Decidable (IsAllNumbers chars) :=
  @instDecidableAnd _ _ instDecidableNot (List.decidableBAll (fun c => c.isDigit = true) chars)

/-- The number that the digits denote. -/
def numberOf (chars : List Char) : Nat :=
  chars.foldl (fun number c => 10 * number + (c.toNat - 48)) 0

/-- The number in an input, unless `sendClick` passes over it. -/
def number (text : InputText) : Option Nat :=
  if IsAllNumbers text.withoutBlanks then some (numberOf text.withoutBlanks) else none

end InputText

/-- The variables of the page that sends. The polling runs while `intervalID` is set. -/
structure FormState where
  inputElements : Fin 20 → InputText
  sendBytes : Option (List UInt8)
  filteredArrayIndexCounter : Nat
  intervalID : Bool
  page : PageState

/-- What happens to the page. -/
inductive FormEvent where
  | type (element : Fin 20) (text : InputText)
  | sendClick
  | clearClick
  | updateClick (butt : Nat)
  | resumeClick
  /-- The timer has run out. -/
  | interval
  | reply (receivedBytes : List UInt8)

/-- The request for what the Arduino has posted. -/
def pollRequest : List UInt8 := [5, 0, 254, 0, 255, 254]

namespace FormState

/-- The `switch` of `sendClick`: what goes into `filteredArray`, as the bytes of `sendBytes`. -/
def filteredPart (element : Fin 20) (value : Nat) : List UInt8 :=
  match element.val with
  | 0 => [0, UInt8.ofNat value]
  | 1 => [1, 1, UInt8.ofNat value]
  | 2 => [1, 2, UInt8.ofNat value]
  | 3 => [1, 3, UInt8.ofNat value]
  | 4 => [2, 1, UInt8.ofNat value]
  | 5 => [2, 2, UInt8.ofNat value]
  | 6 => [2, 3, UInt8.ofNat value]
  | 7 => [3, UInt8.ofNat value]
  | 8 => [4, UInt8.ofNat value]
  | 9 => [5, UInt8.ofNat value]
  | 10 => [6, UInt8.ofNat value]
  | 11 => [7, UInt8.ofNat value]
  | 12 => [8, UInt8.ofNat (value / 255), UInt8.ofNat (value % 255)]
  | 13 => [9, UInt8.ofNat (value / 255), UInt8.ofNat (value % 255)]
  | 14 => [10, UInt8.ofNat (value / 255), UInt8.ofNat (value % 255)]
  | 15 => [11, UInt8.ofNat (value / 255), UInt8.ofNat (value % 255)]
  | _ => []

/-- `filteredArray`, behind the loop over the inputs. -/
def filteredArray (inputElements : Fin 20 → InputText) : List UInt8 :=
  (List.finRange 20).flatMap fun element =>
    (inputElements element).number.elim [] (filteredPart element)

/-- `ethernetLoop()`, with the request that it posts. -/
def ethernetLoop (now : Nat) (s : FormState) : FormState × List (List UInt8) :=
  let request := if s.filteredArrayIndexCounter = 0 then pollRequest else s.sendBytes.getD []
  ({ s with filteredArrayIndexCounter := 0, page := s.page.ethernetLoop now }, [request])

/-- `if (!intervalID) ethernetLoop();` -/
def unlessPolling (now : Nat) (s : FormState) : FormState × List (List UInt8) :=
  if s.intervalID then (s, []) else s.ethernetLoop now

/-- The input of a test value. -/
def testElement : Fin 20 := ⟨19, by decide⟩

/-- `sendClick()`. The text of the last input is assigned to a byte as it is, whatever the browser
makes of it. -/
def sendClick (byteOfText : InputText → UInt8) (now : Nat) (s : FormState) :
    FormState × List (List UInt8) :=
  if (s.inputElements testElement).chars ≠ [] then
    unlessPolling now
      { s with
        sendBytes := some [6, 0, 0, 0, 255, 0, byteOfText (s.inputElements testElement)]
        filteredArrayIndexCounter := 1
        inputElements := Function.update s.inputElements testElement .empty }
  else
    let filteredArray := filteredArray s.inputElements
    let s :=
      { s with
        filteredArrayIndexCounter := filteredArray.length
        inputElements := fun _ => .empty }
    if s.filteredArrayIndexCounter = 0 then (s, [])
    else
      unlessPolling now
        { s with
          sendBytes := some
            ([UInt8.ofNat (s.filteredArrayIndexCounter + 4), 0, 1, 0, 255] ++ filteredArray) }

/-- `updateClick(butt)` -/
def updateClick (now butt : Nat) (s : FormState) : FormState × List (List UInt8) :=
  unlessPolling now
    { s with
      sendBytes := some [5, 0, 1, 0, 255, if butt = 1 then 15 else 16]
      filteredArrayIndexCounter := 1 }

/-- What an event does, and the requests that it posts. -/
def step (byteOfText : InputText → UInt8) (now : Nat) (s : FormState) :
    FormEvent → FormState × List (List UInt8)
  | .type element text =>
      ({ s with inputElements := Function.update s.inputElements element text }, [])
  | .sendClick => s.sendClick byteOfText now
  | .clearClick => ({ s with inputElements := fun _ => .empty }, [])
  | .updateClick butt => s.updateClick now butt
  | .resumeClick => ({ s with intervalID := !s.intervalID }, [])
  | .interval => if s.intervalID then s.ethernetLoop now else (s, [])
  | .reply receivedBytes => ({ s with page := s.page.onload receivedBytes }, [])

/-- The requests of a run, the first one first. -/
def posts (byteOfText : InputText → UInt8) : FormState → List (Nat × FormEvent) →
    List (List UInt8)
  | _, [] => []
  | s, (now, event) :: rest =>
      (s.step byteOfText now event).2 ++ posts byteOfText (s.step byteOfText now event).1 rest

/-- The page when it has been loaded. A browser may keep what was in the inputs. -/
def loaded (inputElements : Fin 20 → InputText) : FormState where
  inputElements
  sendBytes := none
  filteredArrayIndexCounter := 0
  intervalID := false
  page := initialPage

end FormState

/-! ## The format -/

namespace FormState

/-- The command for the number in an input. -/
def command (element : Fin 20) (value : Nat) : Option PageCommand :=
  match element.val with
  | 0 => some (.test (UInt8.ofNat value))
  | 1 => some (.switch .valve ⟨0, by decide⟩ (UInt8.ofNat value))
  | 2 => some (.switch .valve ⟨1, by decide⟩ (UInt8.ofNat value))
  | 3 => some (.switch .valve ⟨2, by decide⟩ (UInt8.ofNat value))
  | 4 => some (.switch .pump ⟨0, by decide⟩ (UInt8.ofNat value))
  | 5 => some (.switch .pump ⟨1, by decide⟩ (UInt8.ofNat value))
  | 6 => some (.switch .pump ⟨2, by decide⟩ (UInt8.ofNat value))
  | 7 => some (.program (UInt8.ofNat value))
  | 8 => some (.byte .programDuration (UInt8.ofNat value))
  | 9 => some (.byte .cleaningDuration (UInt8.ofNat value))
  | 10 => some (.byte .pump1Duration (UInt8.ofNat value))
  | 11 => some (.byte .pump2Duration (UInt8.ofNat value))
  | 12 => some (.word .pump1Volume (UInt8.ofNat (value / 255)) (UInt8.ofNat (value % 255)))
  | 13 => some (.word .pump2Volume (UInt8.ofNat (value / 255)) (UInt8.ofNat (value % 255)))
  | 14 => some (.word .pump1PulsesPerLiter (UInt8.ofNat (value / 255)) (UInt8.ofNat (value % 255)))
  | 15 => some (.word .pump2PulsesPerLiter (UInt8.ofNat (value / 255)) (UInt8.ofNat (value % 255)))
  | _ => none

/-- The commands of a form, with what its numbers say. -/
def commands (inputElements : Fin 20 → InputText) : List PageCommand :=
  (List.finRange 20).flatMap fun element =>
    ((inputElements element).number.bind (command element)).toList

theorem filteredPart_eq (element : Fin 20) (value : Nat) :
    filteredPart element value = (command element value).toList.flatMap PageCommand.bytes := by
  fin_cases element <;> rfl

theorem filteredArray_eq (inputElements : Fin 20 → InputText) :
    filteredArray inputElements = (commands inputElements).flatMap PageCommand.bytes := by
  unfold filteredArray commands
  rw [List.flatMap_assoc]
  refine List.flatMap_congr fun element _ => ?_
  cases (inputElements element).number with
  | none => rfl
  | some value => exact filteredPart_eq element value

/-- What the page shows for a number that has been sent: bytes keep it modulo 256, and two digits
in base 255 modulo 255 * 256. -/
def shown (element : Fin 20) (value : Nat) : String :=
  if element.val ≤ 6 then if value % 256 = 0 then "Isklucen" else "Ukljucen"
  else if element.val = 7 then if value % 256 = 0 then "Zavrsen" else toString (value % 256)
  else if element.val = 9 then toString (value % 256) ++ "s"
  else if element.val ≤ 11 then toString (value % 256) ++ "m"
  else if element.val ≤ 13 then toString (value % 65280) ++ "ml"
  else toString (value % 65280) ++ "/L"

/-- The inputs that have a command. -/
def HasCommand (element : Fin 20) : Prop := element.val < 16

instance decidableHasCommand (element : Fin 20) : Decidable (HasCommand element) :=
  inferInstanceAs (Decidable (element.val < 16))

theorem ofNat_byte_eq_zero_iff (value : Nat) : UInt8.ofNat value = 0 ↔ value % 256 = 0 := by
  rw [← UInt8.toNat_inj, UInt8.toNat_ofNat']
  rfl

/-- Two digits in base 255, each of them in a byte. -/
theorem word_of_digits (value : Nat) :
    value / 255 % 256 * 255 + value % 255 % 256 = value % 65280 := by
  omega

/-- A command shows its number in the line of its input. -/
theorem events_command (element : Fin 20) (value : Nat) :
    (command element value).toList.flatMap (PageCommand.events 1) =
      if HasCommand element then [.shows element (shown element value)] else [] := by
  fin_cases element
  all_goals
    simp [command, PageCommand.events, PageCommand.stateText, HasCommand, shown,
      SwitchGroup.element, ByteItem.element, ByteItem.suffix, WordItem.element, WordItem.suffix,
      ofNat_byte_eq_zero_iff, word_of_digits]

theorem flatMap_events_commands (inputElements : Fin 20 → InputText) :
    (commands inputElements).flatMap (PageCommand.events 1) =
      (List.finRange 20).flatMap fun element =>
        ((inputElements element).number.map fun value =>
          if HasCommand element then [PageEvent.shows element (shown element value)]
          else []).getD [] := by
  unfold commands
  rw [List.flatMap_assoc]
  refine List.flatMap_congr fun element _ => ?_
  cases (inputElements element).number with
  | none => rfl
  | some value => exact events_command element value

/-- The number that is sent from an input. -/
def sentNumber (inputElements : Fin 20 → InputText) (element : Fin 20) : Option Nat :=
  if HasCommand element then (inputElements element).number else none

/-- What the lines show of these inputs. -/
theorem run_textAt (inputElements : Fin 20 → InputText) (element : Fin 20) (held : String)
    (elements : List (Fin 20)) :
    Register.run (PageEvent.textAt element) held (elements.flatMap fun element =>
        ((inputElements element).number.map fun value =>
          if HasCommand element then [PageEvent.shows element (shown element value)]
          else []).getD []) =
      if element ∈ elements then
        (sentNumber inputElements element).elim held (shown element)
      else held := by
  induction elements generalizing held with
  | nil => rfl
  | cons first rest ih =>
      have append (left right : List PageEvent) :
          Register.run (PageEvent.textAt element) held (left ++ right) =
            Register.run (PageEvent.textAt element)
              (Register.run (PageEvent.textAt element) held left) right := List.foldl_append
      rw [List.flatMap_cons, append, ih]
      by_cases same : first = element
      · subst same
        unfold sentNumber
        cases (inputElements first).number with
        | none => simp
        | some value => by_cases has : HasCommand first <;> simp [has, PageEvent.textAt]
      · have other : element ≠ first := fun equal => same equal.symm
        unfold sentNumber
        cases (inputElements first).number with
        | none => simp [other]
        | some value =>
            by_cases has : HasCommand first <;> simp [has, PageEvent.textAt, other, same]

theorem length_filteredPart (element : Fin 20) (value : Nat) :
    (filteredPart element value).length ≤ 3 := by
  fin_cases element <;> simp [filteredPart]

/-- The commands fit into a message, with its ids. -/
theorem length_filteredArray (inputElements : Fin 20 → InputText) :
    4 + (filteredArray inputElements).length ≤ 255 := by
  have parts (elements : List (Fin 20)) :
      (elements.flatMap fun element =>
        (inputElements element).number.elim [] (filteredPart element)).length ≤
        3 * elements.length := by
    induction elements with
    | nil => exact Nat.le_refl 0
    | cons element rest ih =>
        rw [List.flatMap_cons, List.length_append, List.length_cons]
        cases (inputElements element).number with
        | none =>
            rw [Option.elim_none, List.length_nil]
            omega
        | some value =>
            have part := length_filteredPart element value
            rw [Option.elim_some]
            omega
  have all := parts (List.finRange 20)
  rw [List.length_finRange] at all
  unfold filteredArray
  omega

/-- The message of a form, as it would come from a system with the id 1. -/
def formMessage (inputElements : Fin 20 → InputText) : WebMessage where
  smid := 0
  ssid := 1
  commands := commands inputElements
  unknown := none
  fits := by
    unfold messageBody
    rw [← filteredArray_eq, Option.elim_none, List.append_nil]
    exact length_filteredArray inputElements

/-- Commands that have been made of the inputs show each number in the line of its input, reduced to
what its bytes hold, and leave the other lines alone. -/
theorem filteredArray_read (inputElements : Fin 20 → InputText) (page : PageState) (now : Nat)
    (element : Fin 20) :
    ((Page.eventsOf ([UInt8.ofNat (2 + (filteredArray inputElements).length), 0, 1] ++
        filteredArray inputElements)).foldl (PageState.apply now) page).pValueElements element =
      (sentNumber inputElements element).elim (page.pValueElements element) (shown element) := by
  have body : (formMessage inputElements).body = filteredArray inputElements := by
    rw [filteredArray_eq]
    exact List.append_nil _
  have sent : [UInt8.ofNat (2 + (filteredArray inputElements).length), 0, 1] ++
      filteredArray inputElements = [formMessage inputElements].flatMap WebMessage.sent := by
    rw [List.flatMap_singleton, WebMessage.sent, body]
    rfl
  have events : [formMessage inputElements].flatMap WebMessage.events =
      (commands inputElements).flatMap (PageCommand.events 1) := by
    rw [List.flatMap_singleton]
    exact List.append_nil _
  rw [sent, Page.eventsOf_messages (by simp [formMessage]), events, flatMap_events_commands,
    PageState.foldl_apply_pValueElements, run_textAt, if_pos (List.mem_finRange element)]

/-- A number that is sent makes up a command. -/
theorem filteredArray_ne_nil {inputElements : Fin 20 → InputText} {element : Fin 20}
    (sent : sentNumber inputElements element ≠ none) : filteredArray inputElements ≠ [] := by
  intro nothing
  have part := List.flatMap_eq_nil_iff.mp nothing element (List.mem_finRange element)
  unfold sentNumber at sent
  by_cases has : HasCommand element
  · rw [if_pos has] at sent
    obtain ⟨value, typed⟩ := Option.ne_none_iff_exists'.mp sent
    rw [typed, Option.elim_some] at part
    revert has part
    fin_cases element <;> simp [HasCommand, filteredPart]
  · exact sent (if_neg has)

/-- A turn leaves `sendBytes` as they are. -/
theorem unlessPolling_sendBytes (now : Nat) (s : FormState) :
    (s.unlessPolling now).1.sendBytes = s.sendBytes := by
  unfold unlessPolling
  split <;> rfl

/-- With the test input empty, "Send" frames the commands of the other inputs. -/
theorem sendClick_sendBytes (byteOfText : InputText → UInt8) (now : Nat) {s : FormState}
    (untested : (s.inputElements testElement).chars = [])
    (filled : filteredArray s.inputElements ≠ []) :
    (s.sendClick byteOfText now).1.sendBytes =
      some ([UInt8.ofNat ((filteredArray s.inputElements).length + 4), 0, 1, 0, 255] ++
        filteredArray s.inputElements) := by
  have some : (filteredArray s.inputElements).length ≠ 0 :=
    mt List.eq_nil_of_length_eq_zero filled
  unfold sendClick
  rw [if_neg (not_not_intro untested)]
  dsimp only
  rw [if_neg some, unlessPolling_sendBytes]

/-- The commands in `sendBytes`, in a message that comes to the page from a system with the id 1. -/
def reframed (sendBytes : List UInt8) : List UInt8 :=
  [UInt8.ofNat (sendBytes.length - 3), 0, 1] ++ sendBytes.drop 5

/-- The page reads what it writes. From the commands that "Send" leaves in `sendBytes` it shows each
number that was typed in the line of its input, reduced to what its bytes hold, and leaves the
other lines alone. -/
theorem form_round_trip (byteOfText : InputText → UInt8) (now : Nat) (s : FormState)
    (untested : (s.inputElements testElement).chars = [])
    (filled : ∃ element, sentNumber s.inputElements element ≠ none) :
    ∃ sendBytes, (s.sendClick byteOfText now).1.sendBytes = some sendBytes ∧
      ∀ (page : PageState) (later : Nat) (element : Fin 20),
        ((Page.eventsOf (reframed sendBytes)).foldl (PageState.apply later)
            page).pValueElements element =
          (sentNumber s.inputElements element).elim (page.pValueElements element)
            (shown element) := by
  obtain ⟨element, sent⟩ := filled
  refine ⟨_, sendClick_sendBytes byteOfText now untested (filteredArray_ne_nil sent), ?_⟩
  intro page later element
  have framed : reframed ([UInt8.ofNat ((filteredArray s.inputElements).length + 4), 0, 1, 0, 255] ++
      filteredArray s.inputElements) =
      [UInt8.ofNat (2 + (filteredArray s.inputElements).length), 0, 1] ++
        filteredArray s.inputElements := by
    have length : 5 + (filteredArray s.inputElements).length - 3 =
        2 + (filteredArray s.inputElements).length := by omega
    rw [reframed, List.length_append]
    exact congrArg (fun size => [UInt8.ofNat size, 0, 1] ++ filteredArray s.inputElements) length
  rw [framed]
  exact filteredArray_read s.inputElements page later element

/-- A page with a volume of 300 ml typed for the first pump. -/
def volumeTyped : FormState :=
  loaded fun element =>
    if element.val = 12 then ⟨['3', '0', '0'], by decide⟩ else .empty

theorem form_round_trip_volume :
    ∃ sendBytes, (volumeTyped.sendClick (fun _ => 0) 0).1.sendBytes = some sendBytes ∧
      ∀ (page : PageState) (later : Nat),
        ((Page.eventsOf (reframed sendBytes)).foldl (PageState.apply later)
            page).pValueElements 12 = "300ml" := by
  have typed : sentNumber volumeTyped.inputElements 12 = some 300 := by decide +kernel
  have filled : sentNumber volumeTyped.inputElements 12 ≠ none := by
    rw [typed]
    exact Option.some_ne_none 300
  obtain ⟨sendBytes, sent, read⟩ :=
    form_round_trip (fun _ => 0) 0 volumeTyped rfl ⟨12, filled⟩
  refine ⟨sendBytes, sent, fun page later => ?_⟩
  rw [read page later 12, typed]
  rfl

end FormState

/-! ## Messages for an Arduino -/

/-- A message of the page for an Arduino. -/
structure ArduinoMessage where
  rsid : UInt8
  body : List UInt8
  fits : 4 + body.length ≤ 255
  isArduino : rsid ≠ Relay.pcSid ∧ rsid ≠ Relay.phpSid

namespace ArduinoMessage

/-- The message as it is posted: its length, the ids of its receiver and its sender, and what it
says. -/
def bytes (message : ArduinoMessage) : List UInt8 :=
  [UInt8.ofNat (4 + message.body.length), 0, message.rsid, 0, Relay.pcSid] ++ message.body

theorem forArduino (message : ArduinoMessage) : Relay.ForArduino message.bytes := by
  constructor
  · rintro ⟨-, forPc⟩
    exact message.isArduino.1 (Option.some.inj forPc)
  · rintro ⟨-, forPhp⟩
    exact message.isArduino.2 (Option.some.inj forPhp)

end ArduinoMessage

theorem not_forArduino_pollRequest : ¬ Relay.ForArduino pollRequest := by decide

namespace FormState

variable (byteOfText : InputText → UInt8)

/-- The message that "Send" makes of the inputs. -/
def message (inputElements : Fin 20 → InputText) : Option ArduinoMessage :=
  if (inputElements testElement).chars ≠ [] then
    some ⟨0, [0, byteOfText (inputElements testElement)], (by decide : 6 ≤ 255), by decide⟩
  else if filteredArray inputElements = [] then none
  else
    some ⟨1, filteredArray inputElements, length_filteredArray inputElements, by decide⟩

/-- The message of the buttons that ask for values. -/
def updateMessage (butt : Nat) : ArduinoMessage :=
  ⟨1, [if butt = 1 then 15 else 16], (by decide : 5 ≤ 255), by decide⟩

/-- What an event does to the message that waits for the next turn. Without polling a click makes
its own turn. -/
def actions (s : FormState) : FormEvent → List (SlotAction ArduinoMessage)
  | .sendClick =>
      (message byteOfText s.inputElements).elim [.clear] fun message =>
        if s.intervalID then [.put message] else [.put message, .take]
  | .updateClick butt =>
      if s.intervalID then [.put (updateMessage butt)] else [.put (updateMessage butt), .take]
  | .interval => if s.intervalID then [.take] else []
  | .type _ _ | .clearClick | .resumeClick | .reply _ => []

/-- The messages of a run, and its turns. -/
def runActions : FormState → List (Nat × FormEvent) → List (SlotAction ArduinoMessage)
  | _, [] => []
  | s, (now, event) :: rest =>
      s.actions byteOfText event ++ runActions (s.step byteOfText now event).1 rest

/-- The message that waits is in `sendBytes`, if one does. -/
def Waits (s : FormState) : Option ArduinoMessage → Prop
  | none => s.filteredArrayIndexCounter = 0
  | some message =>
      s.filteredArrayIndexCounter ≠ 0 ∧ s.sendBytes = some message.bytes

/-- What a turn posts. -/
def request (held : Option ArduinoMessage) : List UInt8 :=
  held.elim pollRequest ArduinoMessage.bytes

variable {byteOfText} {s : FormState} {held : Option ArduinoMessage} {now : Nat}

/-- A turn posts what waits. -/
theorem ethernetLoop_spec (waits : s.Waits held) :
    (s.ethernetLoop now).1.Waits none ∧ (s.ethernetLoop now).2 = [request held] := by
  refine ⟨rfl, ?_⟩
  unfold ethernetLoop
  cases held with
  | none =>
      have empty : s.filteredArrayIndexCounter = 0 := waits
      exact congrArg ([·]) (if_pos empty)
  | some message =>
      obtain ⟨full, bytes⟩ := waits
      rw [bytes]
      exact congrArg ([·]) (if_neg full)

/-- A click whose message stands in `sendBytes` waits for the timer, or makes a turn. -/
theorem unlessPolling_spec (message : ArduinoMessage) (waits : s.Waits (some message)) :
    let put : List (SlotAction ArduinoMessage) :=
      if s.intervalID then [.put message] else [.put message, .take]
    (s.unlessPolling now).1.Waits (SlotAction.left held put) ∧
      (s.unlessPolling now).2 = (SlotAction.taken held put).map request := by
  unfold unlessPolling
  by_cases polling : s.intervalID = true
  · simp only [polling, if_true]
    exact ⟨waits, rfl⟩
  · simp only [polling]
    exact ethernetLoop_spec waits

theorem sendClick_spec (byteOfText : InputText → UInt8) (now : Nat) (s : FormState)
    (held : Option ArduinoMessage) :
    (s.sendClick byteOfText now).1.Waits
        (SlotAction.left held (s.actions byteOfText .sendClick)) ∧
      (s.sendClick byteOfText now).2 =
        (SlotAction.taken held (s.actions byteOfText .sendClick)).map request := by
  unfold sendClick actions message
  by_cases test : (s.inputElements testElement).chars ≠ []
  · rw [if_pos test, if_pos test]
    exact unlessPolling_spec ⟨0, [0, byteOfText (s.inputElements testElement)], _, _⟩
      ⟨Nat.one_ne_zero, rfl⟩
  · rw [if_neg test, if_neg test]
    dsimp only
    by_cases nothing : filteredArray s.inputElements = []
    · rw [if_pos nothing, nothing]
      exact ⟨rfl, rfl⟩
    · have some : (filteredArray s.inputElements).length ≠ 0 :=
        mt List.eq_nil_of_length_eq_zero nothing
      rw [if_neg nothing, if_neg some, Nat.add_comm]
      exact unlessPolling_spec ⟨1, filteredArray s.inputElements, _, _⟩ ⟨some, rfl⟩

/-- An event does to what waits what it does to a slot. -/
theorem step_spec (byteOfText : InputText → UInt8) (now : Nat) (waits : s.Waits held)
    (event : FormEvent) :
    (s.step byteOfText now event).1.Waits (SlotAction.left held (s.actions byteOfText event)) ∧
      (s.step byteOfText now event).2 =
        (SlotAction.taken held (s.actions byteOfText event)).map request := by
  cases event with
  | sendClick => exact sendClick_spec byteOfText now s held
  | updateClick butt =>
      exact unlessPolling_spec (updateMessage butt) ⟨Nat.one_ne_zero, rfl⟩
  | interval =>
      unfold step actions
      by_cases polling : s.intervalID = true
      · rw [if_pos polling, if_pos polling]
        exact ethernetLoop_spec waits
      · rw [if_neg polling, if_neg polling]
        exact ⟨waits, rfl⟩
  | type _ _ | clearClick | resumeClick | reply _ => cases held <;> exact ⟨waits, rfl⟩

/-- The requests of a run are what its turns find. -/
theorem posts_spec (waits : s.Waits held) (events : List (Nat × FormEvent)) :
    s.posts byteOfText events =
      (SlotAction.taken held (s.runActions byteOfText events)).map request := by
  induction events generalizing s held with
  | nil => rfl
  | cons timed rest ih =>
      obtain ⟨now, event⟩ := timed
      obtain ⟨later, posted⟩ := step_spec byteOfText now waits event
      rw [posts, runActions, SlotAction.taken_append, List.map_append, posted, ih later]

/-- Of what the turns find, an Arduino is posted the messages. -/
theorem postedForArduino_requests (found : List (Option ArduinoMessage)) :
    Relay.postedForArduino (found.map request) =
      (found.filterMap id).flatMap ArduinoMessage.bytes := by
  unfold Relay.postedForArduino
  induction found with
  | nil => rfl
  | cons first rest ih =>
      rw [List.map_cons, List.flatMap_cons, ih]
      cases first with
      | none =>
          rw [request, Option.elim_none, if_neg not_forArduino_pollRequest]
          rfl
      | some message =>
          rw [request, Option.elim_some, if_pos message.forArduino]
          rfl

theorem postedForArduino_eq_filter (requests : List (List UInt8)) :
    Relay.postedForArduino requests = (requests.filter Relay.ForArduino).flatten := by
  unfold Relay.postedForArduino
  induction requests with
  | nil => rfl
  | cons request rest ih =>
      rw [List.flatMap_cons, ih, List.filter_cons]
      by_cases forArduino : Relay.ForArduino request
      · rw [if_pos forArduino, if_pos (decide_eq_true forArduino), List.flatten_cons]
      · rw [if_neg forArduino, if_neg (mt of_decide_eq_true forArduino), List.nil_append]

/-- In every run of the page, what the Arduino side is sent and what waits for it in the relay are
the messages of the clicks, in their order and each at most once: all those whose turn came before
another click. -/
theorem clicks_reach_arduino (byteOfText : InputText → UInt8)
    (inputElements : Fin 20 → InputText) (events : List (Nat × FormEvent))
    (arduino : Option (List UInt8)) (requests : List (List UInt8))
    (keeps : ∀ request ∈ requests, ¬ Relay.Deletes request)
    (posted : requests.filter Relay.ForArduino =
      ((loaded inputElements).posts byteOfText events).filter Relay.ForArduino) :
    Relay.sentToArduino (Relay.served ⟨none, arduino⟩ requests) ++
        (Relay.filesAfter ⟨none, arduino⟩ requests).pc.getD [] =
      (SlotAction.prompt ((loaded inputElements).runActions byteOfText events)).flatMap
        ArduinoMessage.bytes := by
  have waits : (loaded inputElements).Waits none := rfl
  have kept := Relay.pc_kept ⟨none, arduino⟩ keeps
  rw [Option.getD_none, List.nil_append, postedForArduino_eq_filter, posted,
    ← postedForArduino_eq_filter, posts_spec waits, postedForArduino_requests,
    SlotAction.taken_eq_prompt] at kept
  exact kept

/-- With the polling on, the second of two clicks counts. -/
theorem clicks_reach_arduino_polling :
    Relay.sentToArduino (Relay.served ⟨none, none⟩ [[5, 0, 1, 0, 255, 16], arduinoPoll]) ++
        (Relay.filesAfter ⟨none, none⟩ [[5, 0, 1, 0, 255, 16], arduinoPoll]).pc.getD [] =
      (SlotAction.prompt ((loaded fun _ => .empty).runActions (fun _ => 0)
        [(0, .resumeClick), (1, .updateClick 1), (2, .updateClick 2), (3, .interval)])).flatMap
        ArduinoMessage.bytes :=
  clicks_reach_arduino _ _ _ none _ (by decide) (by decide)

end FormState
end BlueberryIrrigation
