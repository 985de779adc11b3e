import BlueberryIrrigation.Semantics.Register
import BlueberryIrrigation.Web.Page

/-!
# A reply that is read again (`script.js`)

Every turn of `ethernetLoop` reads the bytes that are there. That they were read before is marked
by a zero in the first of them, which takes away the first message's header only.
-/

namespace BlueberryIrrigation

open Semantics

/-- The variables of the page. -/
structure PageState where
  pValueElements : Fin 20 → String
  /-- `none` is `undefined`, and `some none` is `NaN`. -/
  programTimeLeft : Option (Option Nat)
  /-- In milliseconds; `none` is `undefined`. -/
  startTime : Option Nat
  receivedBytes : Option (List UInt8)

/-- The text that the event gives to an element. -/
def PageEvent.textAt (element : Fin 20) : PageEvent → Option String
  | shows shown text => if shown = element then some text else none
  | _ => none

/-- The value that the event gives to `programTimeLeft`. -/
def PageEvent.timeLeft : PageEvent → Option (Option (Option Nat))
  | times seconds => some (some seconds)
  | _ => none

namespace PageState

variable {now : Nat} {element : Fin 20} {event : PageEvent} {events : List PageEvent}
  {s t : PageState} {receivedBytes : List UInt8}

def apply (now : Nat) (s : PageState) : PageEvent → PageState
  | .shows element text =>
      { s with pValueElements := Function.update s.pValueElements element text }
  | .times seconds => { s with programTimeLeft := some seconds, startTime := some now }
  | .skips _ => s

/-- `processReceivedBytes()`, from `byteCounter = 0`, where it leaves it. -/
def processReceivedBytes (now : Nat) (s : PageState) : PageState :=
  match s.receivedBytes with
  | none => s
  | some receivedBytes =>
      { (Page.eventsOf receivedBytes).foldl (apply now) s with
        receivedBytes := some (receivedBytes.set 0 0) }

/-- `Math.round(programTimeLeft - (Date.now() - startTime) / 1000)`, unless it is `NaN`. -/
def programTimeResult (now : Nat) (s : PageState) : Option Int :=
  match s.programTimeLeft, s.startTime with
  | some (some seconds), some start => some ((1000 * seconds - (now - start) + 500) / 1000)
  | _, _ => none

/-- The first lines of `ethernetLoop`, which run the countdown. -/
def countdown (now : Nat) (s : PageState) : PageState :=
  (s.programTimeResult now).elim s fun result =>
    if 0 ≤ result then
      { s with
        pValueElements :=
          Function.update s.pValueElements Page.programTime (toString result ++ "s") }
    else s

/-- `ethernetLoop()`; the reply to the request that it sends comes later. -/
def ethernetLoop (now : Nat) (s : PageState) : PageState :=
  (s.countdown now).processReceivedBytes now

/-- `req.onload` -/
def onload (receivedBytes : List UInt8) (s : PageState) : PageState :=
  { s with receivedBytes := some receivedBytes }

/-- Turns of `ethernetLoop` at these times, without a reply between them. -/
def turns (times : List Nat) (s : PageState) : PageState :=
  times.foldl (fun s now => s.ethernetLoop now) s

/-- The same is displayed, the running countdown apart, with the same program time. -/
structure SameValues (s t : PageState) : Prop where
  pValueElements : ∀ element, element ≠ Page.programTime →
    t.pValueElements element = s.pValueElements element
  programTimeLeft : t.programTimeLeft = s.programTimeLeft

/-! ## One turn -/

theorem foldl_apply_pValueElements :
    (events.foldl (apply now) s).pValueElements element =
      Register.run (PageEvent.textAt element) (s.pValueElements element) events := by
  induction events generalizing s with
  | nil => rfl
  | cons event rest ih =>
      rw [List.foldl_cons, ih, Register.run_cons]
      congr 1
      cases event with
      | shows shown text =>
          by_cases same : shown = element
          · simp [apply, PageEvent.textAt, same]
          · simp [apply, PageEvent.textAt, same, Function.update_of_ne (Ne.symm same)]
      | times seconds => rfl
      | skips bytes => rfl

theorem foldl_apply_programTimeLeft :
    (events.foldl (apply now) s).programTimeLeft =
      Register.run PageEvent.timeLeft s.programTimeLeft events := by
  induction events generalizing s with
  | nil => rfl
  | cons event rest ih =>
      rw [List.foldl_cons, ih, Register.run_cons]
      cases event <;> rfl

/-- The countdown writes its own element, if any. -/
theorem countdown_cases (now : Nat) (s : PageState) :
    s.countdown now = s ∨ ∃ text, s.countdown now =
      { s with pValueElements := Function.update s.pValueElements Page.programTime text } := by
  unfold countdown
  cases s.programTimeResult now with
  | none => exact .inl rfl
  | some result =>
      rw [Option.elim_some]
      split
      · exact .inr ⟨_, rfl⟩
      · exact .inl rfl

theorem countdown_pValueElements (other : element ≠ Page.programTime) :
    (s.countdown now).pValueElements element = s.pValueElements element := by
  rcases countdown_cases now s with same | ⟨text, written⟩
  · rw [same]
  · rw [written]
    exact Function.update_of_ne other _ _

@[simp] theorem countdown_programTimeLeft :
    (s.countdown now).programTimeLeft = s.programTimeLeft := by
  rcases countdown_cases now s with same | ⟨text, written⟩
  · rw [same]
  · rw [written]

@[simp] theorem countdown_receivedBytes :
    (s.countdown now).receivedBytes = s.receivedBytes := by
  rcases countdown_cases now s with same | ⟨text, written⟩
  · rw [same]
  · rw [written]

/-- What a turn does to the page, with these bytes. -/
theorem ethernetLoop_of_received (received : s.receivedBytes = some receivedBytes) :
    s.ethernetLoop now =
      { (Page.eventsOf receivedBytes).foldl (apply now) (s.countdown now) with
        receivedBytes := some (receivedBytes.set 0 0) } := by
  unfold ethernetLoop processReceivedBytes
  rw [countdown_receivedBytes, received]

theorem ethernetLoop_pValueElements (received : s.receivedBytes = some receivedBytes)
    (other : element ≠ Page.programTime) :
    (s.ethernetLoop now).pValueElements element =
      Register.run (PageEvent.textAt element) (s.pValueElements element)
        (Page.eventsOf receivedBytes) := by
  rw [ethernetLoop_of_received received]
  apply foldl_apply_pValueElements.trans
  rw [countdown_pValueElements other]

theorem ethernetLoop_programTimeLeft (received : s.receivedBytes = some receivedBytes) :
    (s.ethernetLoop now).programTimeLeft =
      Register.run PageEvent.timeLeft s.programTimeLeft (Page.eventsOf receivedBytes) := by
  rw [ethernetLoop_of_received received]
  apply foldl_apply_programTimeLeft.trans
  rw [countdown_programTimeLeft]

theorem ethernetLoop_receivedBytes (now : Nat)
    (received : s.receivedBytes = some receivedBytes) :
    (s.ethernetLoop now).receivedBytes = some (receivedBytes.set 0 0) := by
  rw [ethernetLoop_of_received received]

end PageState

/-! ## The bytes after the first reading -/

namespace Page

variable {receivedBytes : List UInt8} {system : Option UInt8} {partLength byteCounter : Nat}

/-- A read behind the first byte does not see the mark. -/
theorem getElem?_set_first (behind : 1 ≤ byteCounter) :
    (receivedBytes.set 0 0)[byteCounter]? = receivedBytes[byteCounter]? :=
  List.getElem?_set_ne (by omega)

theorem readNext_set (behind : 1 ≤ byteCounter) :
    readNext (receivedBytes.set 0 0) system partLength byteCounter =
      readNext receivedBytes system partLength byteCounter := by
  unfold readNext
  rw [getElem?_set_first behind, getElem?_set_first (Nat.le_add_right_of_le behind),
    getElem?_set_first (Nat.le_add_right_of_le behind), List.drop_set_of_lt (Nat.succ_pos _)]

theorem readPart_set (behind : 1 ≤ byteCounter) :
    readPart (receivedBytes.set 0 0) system partLength byteCounter =
      readPart receivedBytes system partLength byteCounter := by
  fun_induction readPart receivedBytes system partLength byteCounter with
  | case1 byteCounter inside read later ih =>
      have step : readNext (receivedBytes.set 0 0) system partLength byteCounter =
          (read.1, read.2) := readNext_set behind
      rw [readPart_turn inside step, ih (by omega)]
  | case2 byteCounter ended => rw [readPart, if_neg ended]

theorem readParts_set (behind : 1 ≤ byteCounter) :
    readParts (receivedBytes.set 0 0) byteCounter = readParts receivedBytes byteCounter := by
  fun_induction readParts receivedBytes byteCounter with
  | case1 byteCounter inside partLength part ih =>
      have length := (getElem?_set_first behind).trans (List.getElem?_eq_getElem inside)
      have later : 1 ≤ part.2 := Nat.le_trans (by omega) (le_readPart ..)
      rw [readParts_turn length, getElem?_set_first (Nat.le_add_right_of_le behind),
        readPart_set (Nat.le_add_left_of_le (by omega))]
      exact congrArg _ (ih later)
  | case2 byteCounter ended => rw [readParts, dif_neg (by rwa [List.length_set])]

/-- Once the first byte is zero, the bytes are read from the fourth on. -/
theorem eventsOf_set : eventsOf (receivedBytes.set 0 0) = readParts receivedBytes 3 := by
  unfold eventsOf
  cases receivedBytes with
  | nil => rw [List.set_nil, readParts_end (Nat.zero_le _), readParts_end (Nat.zero_le _)]
  | cons first rest =>
      -- The length byte is zero, so the first message ends before its commands.
      rw [readParts_turn (List.getElem?_set_self (Nat.succ_pos _)), readPart_end (by decide),
        List.nil_append]
      exact readParts_set (by decide)

/-- In six bytes the reading from the fourth on finds a header and no command. -/
theorem readParts_short (short : receivedBytes.length ≤ 6) :
    ∀ event ∈ readParts receivedBytes 3, event = .skips [] := by
  cases length : receivedBytes[3]? with
  | none =>
      rw [readParts_end (List.getElem?_eq_none_iff.mp length)]
      exact List.forall_mem_nil _
  | some first =>
      rw [readParts_turn length]
      by_cases inside : 3 + 3 < first.toNat + (3 + 3) - 2
      · have command : receivedBytes[3 + 3]? = none := List.getElem?_eq_none_iff.mpr short
        have rest : receivedBytes.drop (3 + 3 + 1) = [] :=
          List.drop_eq_nil_iff.mpr (Nat.le_succ_of_le short)
        have read : readNext receivedBytes receivedBytes[3 + 2]? (first.toNat + (3 + 3) - 2)
            (3 + 3) = ([.skips []], first.toNat + (3 + 3) - 2 - 1) := by
          unfold readNext
          rw [command, rest, List.take_nil]
          rfl
        rw [readPart_turn inside read, readPart_end (by omega)]
        dsimp only
        rw [readParts_end (by omega)]
        simp
      · rw [readPart_end (Nat.le_of_not_lt inside)]
        dsimp only
        rw [readParts_end short]
        exact List.forall_mem_nil _

/-- Messages without unknown commands are done as they are. -/
theorem eventsOf_messages {messages : List WebMessage}
    (known : ∀ message ∈ messages, message.unknown = none) :
    eventsOf (messages.flatMap WebMessage.sent) = messages.flatMap WebMessage.events :=
  (readParts_iff List.drop_zero).mpr fun message inside =>
    known message ((List.dropLast_sublist _).subset inside)

end Page

namespace PageState

variable {now : Nat} {response : List UInt8} {s t u : PageState}

/-! ## Turns after the first -/

/-- The response from its fourth byte on, taken for messages, tells nothing that the page does not
have. -/
structure Repeats (response : List UInt8) (s : PageState) : Prop where
  pValueElements : ∀ element, element ≠ Page.programTime →
    ∀ text ∈ Register.last (PageEvent.textAt element) (Page.readParts response 3),
      text = s.pValueElements element
  programTimeLeft : ∀ timeLeft ∈ Register.last PageEvent.timeLeft (Page.readParts response 3),
    timeLeft = s.programTimeLeft

theorem SameValues.refl : SameValues s s := ⟨fun _ _ => rfl, rfl⟩

theorem SameValues.symm (same : SameValues s t) : SameValues t s :=
  ⟨fun element other => (same.pValueElements element other).symm, same.programTimeLeft.symm⟩

theorem SameValues.trans (first : SameValues s t) (second : SameValues t u) : SameValues s u where
  pValueElements element other :=
    (second.pValueElements element other).trans (first.pValueElements element other)
  programTimeLeft := second.programTimeLeft.trans first.programTimeLeft

/-- A response of six bytes, one command with two operands, repeats nothing. -/
theorem Repeats.of_short (short : response.length ≤ 6) : Repeats response s := by
  have passes := Page.readParts_short short
  constructor
  · intro element _ text shown
    rw [Register.last_eq_none fun event inside => by rw [passes event inside]; rfl] at shown
    exact absurd shown (Option.not_mem_none text)
  · intro timeLeft shown
    rw [Register.last_eq_none fun event inside => by rw [passes event inside]; rfl] at shown
    exact absurd shown (Option.not_mem_none timeLeft)

/-- What is repeated depends on the values only. -/
theorem Repeats.congr (repeats : Repeats response s) (same : SameValues s t) :
    Repeats response t where
  pValueElements element other text shown := by
    rw [same.pValueElements element other]
    exact repeats.pValueElements element other text shown
  programTimeLeft timeLeft shown := by
    rw [same.programTimeLeft]
    exact repeats.programTimeLeft timeLeft shown

/-- A turn with bytes that were read before. -/
theorem sameValues_ethernetLoop_iff (received : s.receivedBytes = some (response.set 0 0)) :
    SameValues s (s.ethernetLoop now) ↔ Repeats response s := by
  have texts (element : Fin 20) (other : element ≠ Page.programTime) :
      (s.ethernetLoop now).pValueElements element = s.pValueElements element ↔
        ∀ text ∈ Register.last (PageEvent.textAt element) (Page.readParts response 3),
          text = s.pValueElements element := by
    rw [ethernetLoop_pValueElements received other, Page.eventsOf_set, Register.run_eq_self_iff]
  have time : (s.ethernetLoop now).programTimeLeft = s.programTimeLeft ↔
      ∀ timeLeft ∈ Register.last PageEvent.timeLeft (Page.readParts response 3),
        timeLeft = s.programTimeLeft := by
    rw [ethernetLoop_programTimeLeft received, Page.eventsOf_set, Register.run_eq_self_iff]
  constructor
  · intro same
    exact ⟨fun element other => (texts element other).mp (same.pValueElements element other),
      time.mp same.programTimeLeft⟩
  · intro repeats
    exact ⟨fun element other => (texts element other).mpr (repeats.pValueElements element other),
      time.mpr repeats.programTimeLeft⟩

/-- What one such turn leaves alone, any number of them does. -/
theorem sameValues_turns {times : List Nat}
    (received : s.receivedBytes = some (response.set 0 0)) (repeats : Repeats response s) :
    SameValues s (s.turns times) := by
  induction times generalizing s with
  | nil => exact .refl
  | cons now rest ih =>
      have turn : SameValues s (s.ethernetLoop now) :=
        (sameValues_ethernetLoop_iff received).mpr repeats
      have marked := ethernetLoop_receivedBytes now received
      rw [List.set_set] at marked
      exact turn.trans (ih marked (repeats.congr turn))

end PageState

open PageState

/-- After the turn that reads a new response, any number of further turns leaves the values of the
page as they are: exactly when the bytes of the response from the fourth on, taken for messages,
tell nothing but what the response's commands leave on the page. -/
theorem response_applied_once (page : PageState) (now : Nat) (messages : List WebMessage)
    (known : ∀ message ∈ messages, message.unknown = none) :
    (∀ times, SameValues ((page.onload (messages.flatMap WebMessage.sent)).ethernetLoop now)
        (((page.onload (messages.flatMap WebMessage.sent)).ethernetLoop now).turns times)) ↔
      Repeats (messages.flatMap WebMessage.sent)
        ((messages.flatMap WebMessage.events).foldl (PageState.apply now) page) := by
  have received : (page.onload (messages.flatMap WebMessage.sent)).receivedBytes =
      some (messages.flatMap WebMessage.sent) := rfl
  have marked := ethernetLoop_receivedBytes now received
  have applied : SameValues ((messages.flatMap WebMessage.events).foldl (PageState.apply now) page)
      ((page.onload (messages.flatMap WebMessage.sent)).ethernetLoop now) := by
    constructor
    · intro element other
      rw [ethernetLoop_pValueElements received other, Page.eventsOf_messages known,
        foldl_apply_pValueElements]
      rfl
    · rw [ethernetLoop_programTimeLeft received, Page.eventsOf_messages known,
        foldl_apply_programTimeLeft]
      rfl
  constructor
  · intro same
    exact ((sameValues_ethernetLoop_iff marked).mp (same [now])).congr applied.symm
  · intro repeats times
    exact sameValues_turns marked (repeats.congr applied)

/-- The page before anything has come. -/
def initialPage : PageState where
  pValueElements _ := "n/a"
  programTimeLeft := none
  startTime := none
  receivedBytes := none

/-- The durations of the program, of cleaning and of the first pump. -/
def durationsMessage : WebMessage where
  smid := 0
  ssid := 1
  commands := [.byte .programDuration 30, .byte .cleaningDuration 4, .byte .pump1Duration 9]
  unknown := none
  fits := by decide

/-- From its fourth byte on the message reads as one of the system 5, with a duration of 6. -/
theorem readParts_durationsMessage :
    Page.readParts ([durationsMessage].flatMap WebMessage.sent) 3 =
      [.shows 8 "6m", .skips []] := by
  have sent : [durationsMessage].flatMap WebMessage.sent = [8, 0, 1, 4, 30, 5, 4, 6, 9] := rfl
  rw [sent]
  simp [Page.readParts, Page.readPart, Page.readNext, Page.readCommand, Page.byteText]
  decide

/-- The program that runs is told once. -/
theorem response_applied_once_program :
    Repeats ([programMessage].flatMap WebMessage.sent)
        (([programMessage].flatMap WebMessage.events).foldl (PageState.apply 0) initialPage) ∧
      ∀ times, SameValues
        ((initialPage.onload ([programMessage].flatMap WebMessage.sent)).ethernetLoop 0)
        (((initialPage.onload ([programMessage].flatMap WebMessage.sent)).ethernetLoop 0).turns
          times) := by
  have repeats : Repeats ([programMessage].flatMap WebMessage.sent)
      (([programMessage].flatMap WebMessage.events).foldl (PageState.apply 0) initialPage) :=
    .of_short (by decide)
  exact ⟨repeats, (response_applied_once initialPage 0 [programMessage]
    (by simp [programMessage])).mpr repeats⟩

/-- The second turn shows a program duration of 6 minutes instead of 30. -/
theorem response_applied_once_durations :
    ¬ ∀ times, SameValues
      ((initialPage.onload ([durationsMessage].flatMap WebMessage.sent)).ethernetLoop 0)
      (((initialPage.onload ([durationsMessage].flatMap WebMessage.sent)).ethernetLoop 0).turns
        times) := by
  intro same
  have received : (initialPage.onload ([durationsMessage].flatMap WebMessage.sent)).receivedBytes =
      some ([durationsMessage].flatMap WebMessage.sent) := rfl
  have repeats :=
    (sameValues_ethernetLoop_iff (ethernetLoop_receivedBytes 0 received)).mp (same [0])
  have again := repeats.pValueElements 8 (by decide) "6m" (by
    rw [readParts_durationsMessage]
    rfl)
  rw [ethernetLoop_pValueElements received (by decide),
    Page.eventsOf_messages (by simp [durationsMessage])] at again
  exact absurd again (by decide)

end BlueberryIrrigation
