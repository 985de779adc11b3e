import Mathlib.Data.List.GetD
import Mathlib.Data.List.OfFn
import Mathlib.Logic.Function.Basic

/-!
# Arrays of a fixed length

An array is a function of its exact index type. An access by a run-time index either stays
inside or is reported with the index that leaves the array, so a run of checked accesses
succeeds exactly when none of them is out of bounds. `Ensures` is the precondition of such a
run, one rule for each construct, and `Allows` its dual, which says nothing of a run that leaves
an array. `storeAll` is the usual copying loop, `overlay` what it leaves behind.
-/

namespace BlueberryIrrigation.Semantics

universe u

/-- An access at `index` to an array of `length` entries. -/
structure OutOfBounds where
  length : Nat
  index : Nat
deriving DecidableEq, Repr

namespace Memory

variable {α : Type u} {length : Nat}

/-- A run-time index as an index of the array. -/
def element (length index : Nat) : Except OutOfBounds (Fin length) :=
  if inside : index < length then .ok ⟨index, inside⟩ else .error ⟨length, index⟩

def load (array : Fin length → α) (index : Nat) : Except OutOfBounds α :=
  (element length index).map array

def store (array : Fin length → α) (index : Nat) (value : α) :
    Except OutOfBounds (Fin length → α) :=
  (element length index).map fun index => Function.update array index value

/-- Stores at consecutive indices. -/
def storeAll (array : Fin length → α) (start : Nat) :
    List α → Except OutOfBounds (Fin length → α)
  | [] => .ok array
  | value :: rest =>
      match store array start value with
      | .error outside => .error outside
      | .ok stored => storeAll stored (start + 1) rest

/-- Loads at consecutive indices. -/
def loadAll (array : Fin length → α) (start : Nat) : Nat → Except OutOfBounds (List α)
  | 0 => .ok []
  | count + 1 =>
      match load array start with
      | .error outside => .error outside
      | .ok value => (loadAll array (start + 1) count).map (value :: ·)

/-- The array with these values laid over it. -/
def overlay (array : Fin length → α) (start : Nat) (values : List α) : Fin length → α :=
  fun index =>
    if start ≤ index then values.getD (index - start) (array index) else array index

/-- The first entries of an array. -/
def firstEntries (array : Fin length → α) (count : Nat) : List α := (List.ofFn array).take count

theorem element_inside {index : Nat} (inside : index < length) :
    element length index = .ok ⟨index, inside⟩ := dif_pos inside

theorem element_outside {index : Nat} (outside : ¬ index < length) :
    element length index = .error ⟨length, index⟩ := dif_neg outside

theorem load_inside {index : Nat} (array : Fin length → α) (inside : index < length) :
    load array index = .ok (array ⟨index, inside⟩) := by
  rw [load, element_inside inside]
  rfl

theorem store_inside {index : Nat} (array : Fin length → α) (value : α) (inside : index < length) :
    store array index value = .ok (Function.update array ⟨index, inside⟩ value) := by
  rw [store, element_inside inside]
  rfl

theorem store_outside {index : Nat} (array : Fin length → α) (value : α)
    (outside : ¬ index < length) : store array index value = .error ⟨length, index⟩ := by
  rw [store, element_outside outside]
  rfl

@[simp] theorem overlay_nil (array : Fin length → α) (start : Nat) :
    overlay array start [] = array := by
  ext index
  simp [overlay]

/-- One store and the rest of the values. -/
theorem overlay_cons (array : Fin length → α) {start : Nat} (inside : start < length) (value : α)
    (rest : List α) :
    overlay array start (value :: rest) =
      overlay (Function.update array ⟨start, inside⟩ value) (start + 1) rest := by
  ext ⟨index, bound⟩
  unfold overlay
  dsimp only
  rcases Nat.lt_trichotomy index start with before | rfl | after
  · have different : (⟨index, bound⟩ : Fin length) ≠ ⟨start, inside⟩ := by
      intro same
      cases same
      exact Nat.lt_irrefl _ before
    rw [if_neg (Nat.not_le_of_lt before), if_neg (by omega), Function.update_of_ne different]
  · rw [if_pos (Nat.le_refl index), if_neg (by omega), Nat.sub_self, Function.update_self]
    rfl
  · have different : (⟨index, bound⟩ : Fin length) ≠ ⟨start, inside⟩ := by
      intro same
      cases same
      exact Nat.lt_irrefl _ after
    obtain ⟨offset, rfl⟩ := Nat.exists_eq_add_of_lt after
    rw [if_pos (by omega), if_pos (by omega), Function.update_of_ne different]
    have first : start + offset + 1 - start = offset + 1 := by omega
    have second : start + offset + 1 - (start + 1) = offset := by omega
    rw [first, second, List.getD_cons_succ]

/-- One store lays one value over the array. -/
theorem update_eq_overlay (array : Fin length → α) {index : Nat} (inside : index < length)
    (value : α) : Function.update array ⟨index, inside⟩ value = overlay array index [value] := by
  rw [overlay_cons array inside, overlay_nil]

/-- Values laid behind each other are laid over the array together. -/
theorem overlay_append (array : Fin length → α) (start : Nat) (first second : List α) :
    overlay (overlay array start first) (start + first.length) second =
      overlay array start (first ++ second) := by
  ext index
  unfold overlay
  by_cases behind : start + first.length ≤ index.val
  · have place : index.val - start - first.length = index.val - (start + first.length) := by omega
    rw [if_pos behind, if_pos (by omega), if_pos (by omega),
      List.getD_append_right first second _ _ (by omega), place,
      List.getD_eq_default first _ (by omega)]
  · rw [if_neg behind]
    by_cases covered : start ≤ index.val
    · rw [if_pos covered, if_pos covered, List.getD_append first second _ _ (by omega)]
    · rw [if_neg covered, if_neg covered]

/-- Values that fit are stored. -/
theorem storeAll_fits {start : Nat} {values : List α} (array : Fin length → α)
    (fits : start + values.length ≤ length) :
    storeAll array start values = .ok (overlay array start values) := by
  induction values generalizing array start with
  | nil => rw [overlay_nil, storeAll]
  | cons value rest ih =>
      rw [List.length_cons] at fits
      have inside : start < length := by omega
      rw [storeAll, store_inside array value inside, overlay_cons array inside value rest]
      exact ih _ (by omega)

/-- Values that do not fit leave the array. -/
theorem storeAll_overflows {start : Nat} {values : List α} (array : Fin length → α)
    (room : start ≤ length) (overflow : length < start + values.length) :
    storeAll array start values = .error ⟨length, length⟩ := by
  induction values generalizing array start with
  | nil =>
      rw [List.length_nil] at overflow
      omega
  | cons value rest ih =>
      rw [List.length_cons] at overflow
      by_cases inside : start < length
      · rw [storeAll, store_inside array value inside]
        exact ih _ inside (by omega)
      · obtain rfl : start = length := by omega
        rw [storeAll, store_outside array value inside]

/-- What has been stored from the beginning is read back. -/
theorem firstEntries_overlay (array : Fin length → α) {values : List α}
    (fits : values.length ≤ length) :
    firstEntries (overlay array 0 values) values.length = values := by
  apply List.ext_getElem
  · simp [firstEntries, fits]
  · intro index first second
    simp [firstEntries, overlay, List.getElem?_eq_getElem second]

/-- The entries of the beginning are those of the array. -/
theorem getElem?_firstEntries (array : Fin length → α) {count index : Nat}
    (counted : index < count) (inside : index < length) :
    (firstEntries array count)[index]? = some (array ⟨index, inside⟩) := by
  rw [firstEntries, List.getElem?_take_of_lt counted,
    List.getElem?_eq_getElem (by rwa [List.length_ofFn]), List.getElem_ofFn]

/-! ## Preconditions -/

section

variable {β : Type u} {property : β → Prop}

/-- The accesses succeed, and the result is of this kind. -/
def Ensures (result : Except OutOfBounds β) (property : β → Prop) : Prop :=
  ∃ value, result = .ok value ∧ property value

@[simp] theorem ensures_ok (value : β) : Ensures (.ok value) property ↔ property value := by
  constructor
  · rintro ⟨_, ⟨⟩, holds⟩
    exact holds
  · exact fun holds => ⟨value, rfl, holds⟩

@[simp] theorem ensures_pure (value : β) :
    Ensures (pure value : Except OutOfBounds β) property ↔ property value := ensures_ok value

@[simp] theorem ensures_error (outside : OutOfBounds) :
    ¬ Ensures (.error outside : Except OutOfBounds β) property := by
  rintro ⟨_, ⟨⟩, _⟩

theorem ensures_bind {result : Except OutOfBounds α} {next : α → Except OutOfBounds β} :
    Ensures (result >>= next) property ↔
      Ensures result fun value => Ensures (next value) property := by
  cases result with
  | ok value => simp [bind, Except.bind]
  | error outside => simp [bind, Except.bind]

theorem ensures_ite {condition : Prop} [Decidable condition] {yes no : Except OutOfBounds β} :
    Ensures (if condition then yes else no) property ↔
      (condition → Ensures yes property) ∧ (¬ condition → Ensures no property) := by
  by_cases holds : condition <;> simp [holds]

theorem Ensures.mono {result : Except OutOfBounds β} {weaker : β → Prop}
    (ensures : Ensures result property) (implies : ∀ value, property value → weaker value) :
    Ensures result weaker := by
  obtain ⟨value, same, holds⟩ := ensures
  exact ⟨value, same, implies value holds⟩

/-- Whatever result the accesses have is of this kind. -/
def Allows (result : Except OutOfBounds β) (property : β → Prop) : Prop :=
  ∀ value, result = .ok value → property value

theorem allows_iff_not_ensures {result : Except OutOfBounds β} :
    Allows result property ↔ ¬ Ensures result fun value => ¬ property value := by
  simp [Allows, Ensures]

@[simp] theorem allows_ok (value : β) : Allows (.ok value) property ↔ property value := by
  simp [allows_iff_not_ensures]

@[simp] theorem allows_pure (value : β) :
    Allows (pure value : Except OutOfBounds β) property ↔ property value := allows_ok value

@[simp] theorem allows_error (outside : OutOfBounds) :
    Allows (.error outside : Except OutOfBounds β) property := by
  simp [allows_iff_not_ensures]

theorem allows_bind {result : Except OutOfBounds α} {next : α → Except OutOfBounds β} :
    Allows (result >>= next) property ↔
      Allows result fun value => Allows (next value) property := by
  simp only [allows_iff_not_ensures, ensures_bind, not_not]

theorem allows_ite {condition : Prop} [Decidable condition] {yes no : Except OutOfBounds β} :
    Allows (if condition then yes else no) property ↔
      (condition → Allows yes property) ∧ (¬ condition → Allows no property) := by
  by_cases holds : condition <;> simp [holds]

theorem Allows.mono {result : Except OutOfBounds β} {weaker : β → Prop}
    (allows : Allows result property) (implies : ∀ value, property value → weaker value) :
    Allows result weaker :=
  fun value same => implies value (allows value same)

/-- Of the results that the accesses allow, those of one kind are those of the other. -/
theorem Allows.ensures_congr {result : Except OutOfBounds β} {other : β → Prop}
    (allows : Allows result fun value => property value ↔ other value) :
    Ensures result property ↔ Ensures result other := by
  constructor
  · rintro ⟨value, same, holds⟩
    exact ⟨value, same, (allows value same).mp holds⟩
  · rintro ⟨value, same, holds⟩
    exact ⟨value, same, (allows value same).mpr holds⟩

/-- What a run ensures, it allows. -/
theorem Ensures.allows {result : Except OutOfBounds β} (ensures : Ensures result property) :
    Allows result property := by
  rintro value rfl
  exact (ensures_ok value).mp ensures

end

/-- An operation on the entry at a run-time index. -/
theorem allows_entry {γ : Type} {index : Nat} {property : γ → Prop} {next : Fin length → γ}
    (each : ∀ entry, property (next entry)) :
    Allows (do let entry ← element length index; return next entry) property := by
  rw [allows_bind]
  exact fun entry _ => (allows_pure _).mpr (each entry)

theorem ensures_load {array : Fin length → α} {index : Nat} {property : α → Prop} :
    Ensures (load array index) property ↔
      ∃ inside : index < length, property (array ⟨index, inside⟩) := by
  by_cases inside : index < length
  · simp [load_inside array inside, inside]
  · have outside : load array index = .error ⟨length, index⟩ := by
      rw [load, element_outside inside]
      rfl
    simp [outside, inside]

theorem ensures_store {array : Fin length → α} {index : Nat} {value : α}
    {property : (Fin length → α) → Prop} :
    Ensures (store array index value) property ↔
      ∃ inside : index < length, property (Function.update array ⟨index, inside⟩ value) := by
  by_cases inside : index < length
  · simp [store_inside array value inside, inside]
  · simp [store_outside array value inside, inside]

theorem ensures_storeAll {array : Fin length → α} {start : Nat} {values : List α}
    {property : (Fin length → α) → Prop} (room : start ≤ length) :
    Ensures (storeAll array start values) property ↔
      start + values.length ≤ length ∧ property (overlay array start values) := by
  by_cases fits : start + values.length ≤ length
  · simp [storeAll_fits array fits, fits]
  · simp [storeAll_overflows array room (Nat.lt_of_not_le fits), fits]

end Memory
end BlueberryIrrigation.Semantics
