import J2534Oip.Defs
import Mathlib.Logic.Function.Basic

/-!
# `PassThruIoctl` with `GET_DEVICE_INFO`

The caller lists parameters with a field `Supported` each, and the call is to fill these in.
`J2534CannelloniClient` loops over the list and leaves `Supported` alone for an id it does
not know; `J2534Emulator` looks at the first entry only, however long the list is.

    Answers J2534CannelloniClient.getDeviceInfo list ↔
      every entry is one that is filled in                                  (answers_client_iff)
    Answers J2534Emulator.getDeviceInfo list ↔
      the list is one `SERIAL_NUMBER` entry                               (answers_emulator_iff)
-/

namespace J2534Oip

/-! ## Parameter lists -/

/-- `SPARAM` -/
structure SParam where
  parameter : UInt32
  value : UInt32
  supported : UInt32
deriving DecidableEq

/-- `SPARAM_LIST`, with whatever is in memory from `SParamPtr` on.  A list fits the address
space, so an `int` counts its entries. -/
structure SParamList where
  numOfParameters : Nat
  sParamPtr : Nat → SParam

/-- What the call returns, the entries afterwards, and the entries it read or wrote. -/
structure DeviceInfo where
  retval : J2534Err
  sParamPtr : Nat → SParam
  touched : List Nat

def serialNumber : UInt32 := 0x00000001

def canSupported : UInt32 := 0x00000006

def shortToGndJ1962 : UInt32 := 0x00000017

def pgmVoltageJ1962 : UInt32 := 0x00000018

/-! ## The two backends -/

namespace J2534CannelloniClient

/-- The `switch` on `Parameter`. -/
def fillParam (p : SParam) : SParam :=
  if p.parameter = serialNumber then { p with supported := 1, value := 987654321 }
  else if p.parameter = canSupported then { p with supported := 1 }
  else if p.parameter = shortToGndJ1962 then
    if p.value = 0 then { p with supported := 1 } else p
  else if p.parameter = pgmVoltageJ1962 then { p with supported := 1 }
  else p

/-- A pass of the loop, on entry `i`. -/
def deviceInfoPass (r : DeviceInfo) (i : Nat) : DeviceInfo :=
  { r with sParamPtr := Function.update r.sParamPtr i (fillParam (r.sParamPtr i)),
           touched := r.touched ++ [i] }

/-- `PassThruIoctl` with `GET_DEVICE_INFO` -/
def getDeviceInfo (list : SParamList) : DeviceInfo :=
  (List.range list.numOfParameters).foldl deviceInfoPass
    { retval := .statusNoError, sParamPtr := list.sParamPtr, touched := [] }

end J2534CannelloniClient

namespace J2534Emulator

/-- The `switch` on `Parameter`. -/
def fillParam (p : SParam) : SParam :=
  if p.parameter = serialNumber then { p with supported := 1, value := 987654321 } else p

/-- `PassThruIoctl` with `GET_DEVICE_INFO`; `NumOfParameters` is not looked at. -/
def getDeviceInfo (list : SParamList) : DeviceInfo :=
  { retval := .statusNoError
    sParamPtr := Function.update list.sParamPtr 0 (fillParam (list.sParamPtr 0))
    touched := [0] }

end J2534Emulator

/-! ## The property -/

/-- The same query, over other contents of the `Supported` fields. -/
def SParamList.withSupported (list : SParamList) (supported : Nat → UInt32) : SParamList :=
  { list with sParamPtr := fun i => { list.sParamPtr i with supported := supported i } }

/-- The call succeeds, stays in the list, answers the same whatever the `Supported` fields
held, and gives the serial number. -/
structure Answers (getDeviceInfo : SParamList → DeviceInfo) (list : SParamList) : Prop where
  retval : (getDeviceInfo list).retval = .statusNoError
  inList : ∀ i ∈ (getDeviceInfo list).touched, i < list.numOfParameters
  noEcho : ∀ supported supported', ∀ i < list.numOfParameters,
    ((getDeviceInfo (list.withSupported supported)).sParamPtr i).supported =
      ((getDeviceInfo (list.withSupported supported')).sParamPtr i).supported
  serial : ∀ i < list.numOfParameters, (list.sParamPtr i).parameter = serialNumber →
    ((getDeviceInfo list).sParamPtr i).supported = 1 ∧
      ((getDeviceInfo list).sParamPtr i).value = 987654321

/-! ## The client -/

namespace J2534CannelloniClient

/-- Entries the client fills in. -/
def Filled (p : SParam) : Prop :=
  p.parameter = serialNumber ∨ p.parameter = canSupported ∨ p.parameter = pgmVoltageJ1962 ∨
    p.parameter = shortToGndJ1962 ∧ p.value = 0

theorem fillParam_supported (p : SParam) (h : Filled p) : (fillParam p).supported = 1 := by
  rcases h with hid | hid | hid | ⟨hid, hvalue⟩
  · simp [fillParam, hid]
  · simp [fillParam, hid, canSupported, serialNumber]
  · simp [fillParam, hid, pgmVoltageJ1962, shortToGndJ1962, canSupported, serialNumber]
  · simp [fillParam, hid, hvalue, shortToGndJ1962, canSupported, serialNumber]

theorem fillParam_eq_self (p : SParam) (h : ¬Filled p) : fillParam p = p := by
  simp only [Filled, not_or, not_and] at h
  obtain ⟨hserial, hcan, hpgm, hgnd⟩ := h
  unfold fillParam
  rw [if_neg hserial, if_neg hcan, if_neg hpgm]
  split
  · next hid => rw [if_neg (hgnd hid)]
  · rfl

/-- After `n` passes the first `n` entries are done. -/
theorem deviceInfoPass_foldl (ptr : Nat → SParam) (n : Nat) :
    (List.range n).foldl deviceInfoPass
        { retval := .statusNoError, sParamPtr := ptr, touched := [] } =
      { retval := .statusNoError,
        sParamPtr := fun j => if j < n then fillParam (ptr j) else ptr j,
        touched := List.range n } := by
  induction n with
  | zero => simp
  | succ n ih =>
    rw [List.range_succ, List.foldl_append, ih]
    simp only [List.foldl_cons, List.foldl_nil, deviceInfoPass, Nat.lt_irrefl, if_false]
    congr 1
    ext j : 1
    by_cases hj : j = n
    · subst hj
      simp
    · rw [Function.update_of_ne hj]
      have hlt : j < n + 1 ↔ j < n := by omega
      simp only [hlt]

theorem getDeviceInfo_entry (list : SParamList) (i : Nat) (hi : i < list.numOfParameters) :
    (getDeviceInfo list).sParamPtr i = fillParam (list.sParamPtr i) := by
  unfold getDeviceInfo
  rw [deviceInfoPass_foldl]
  exact if_pos hi

theorem answers_client_iff (list : SParamList) :
    Answers getDeviceInfo list ↔ ∀ i < list.numOfParameters, Filled (list.sParamPtr i) := by
  constructor
  · intro h i hi
    by_contra hnot
    -- an entry that is not filled in keeps what it held
    have hkeep : ∀ v : UInt32, ((getDeviceInfo (list.withSupported fun _ => v)).sParamPtr i).supported
        = v := by
      intro v
      rw [getDeviceInfo_entry (list.withSupported fun _ => v) i hi]
      rw [fillParam_eq_self ((list.withSupported fun _ => v).sParamPtr i) hnot]
      rfl
    have hecho := h.noEcho (fun _ => 0) (fun _ => 1) i hi
    rw [hkeep 0, hkeep 1] at hecho
    exact absurd hecho (by decide)
  · intro hfilled
    refine ⟨?_, fun i hi => ?_, fun supported supported' i hi => ?_, fun i hi hserial => ?_⟩
    · unfold getDeviceInfo
      rw [deviceInfoPass_foldl]
    · unfold getDeviceInfo at hi
      rw [deviceInfoPass_foldl] at hi
      exact List.mem_range.1 hi
    · have hone : ∀ supported : Nat → UInt32,
          ((getDeviceInfo (list.withSupported supported)).sParamPtr i).supported = 1 := by
        intro supported
        rw [getDeviceInfo_entry (list.withSupported supported) i hi]
        exact fillParam_supported _ (hfilled i hi)
      rw [hone supported, hone supported']
    · rw [getDeviceInfo_entry list i hi]
      simp [fillParam, hserial]

end J2534CannelloniClient

/-! ## The emulator -/

namespace J2534Emulator

theorem getDeviceInfo_first (list : SParamList) :
    (getDeviceInfo list).sParamPtr 0 = fillParam (list.sParamPtr 0) := by
  simp only [getDeviceInfo, Function.update_self]

theorem getDeviceInfo_rest (list : SParamList) (i : Nat) (hi : i ≠ 0) :
    (getDeviceInfo list).sParamPtr i = list.sParamPtr i := by
  unfold getDeviceInfo
  exact Function.update_of_ne hi _ _

theorem answers_emulator_iff (list : SParamList) :
    Answers getDeviceInfo list ↔
      list.numOfParameters = 1 ∧ (list.sParamPtr 0).parameter = serialNumber := by
  constructor
  · intro h
    have hpos : 0 < list.numOfParameters := h.inList 0 (List.mem_singleton_self 0)
    -- an entry that keeps what it held is echoed
    have hecho : ∀ i < list.numOfParameters,
        ¬∀ v : UInt32, ((getDeviceInfo (list.withSupported fun _ => v)).sParamPtr i).supported = v := by
      intro i hi hkeep
      have hsame := h.noEcho (fun _ => 0) (fun _ => 1) i hi
      rw [hkeep 0, hkeep 1] at hsame
      exact absurd hsame (by decide)
    constructor
    · by_contra hne
      refine hecho 1 (by omega) fun v => ?_
      rw [getDeviceInfo_rest _ 1 Nat.one_ne_zero]
      rfl
    · by_contra hserial
      refine hecho 0 hpos fun v => ?_
      rw [getDeviceInfo_first]
      exact congrArg SParam.supported (if_neg hserial)
  · rintro ⟨hone, hserial⟩
    have hzero : ∀ i < list.numOfParameters, i = 0 := by
      intro i hi
      omega
    refine ⟨rfl, fun i hi => ?_, fun supported supported' i hi => ?_, fun i hi _ => ?_⟩
    · obtain rfl := List.mem_singleton.1 hi
      omega
    · have hfirst : ∀ supported : Nat → UInt32,
          ((getDeviceInfo (list.withSupported supported)).sParamPtr 0).supported = 1 := by
        intro supported
        rw [getDeviceInfo_first]
        exact congrArg SParam.supported (if_pos hserial)
      rw [hzero i hi, hfirst supported, hfirst supported']
    · rw [hzero i hi, getDeviceInfo_first, fillParam, if_pos hserial]
      exact ⟨rfl, rfl⟩

end J2534Emulator

/-! ## Main result -/

/-- **The device information of the two backends.** -/
theorem answers_iff (list : SParamList) :
    (Answers J2534CannelloniClient.getDeviceInfo list ↔
      ∀ i < list.numOfParameters, J2534CannelloniClient.Filled (list.sParamPtr i)) ∧
    (Answers J2534Emulator.getDeviceInfo list ↔
      list.numOfParameters = 1 ∧ (list.sParamPtr 0).parameter = serialNumber) :=
  ⟨J2534CannelloniClient.answers_client_iff list, J2534Emulator.answers_emulator_iff list⟩

/-- An id no backend knows, J1939_SUPPORTED, and an empty list. -/
theorem not_answers_unknown :
    ¬Answers J2534CannelloniClient.getDeviceInfo
        { numOfParameters := 1, sParamPtr := fun _ => ⟨0x11, 0, 7⟩ } ∧
      ¬Answers J2534Emulator.getDeviceInfo
        { numOfParameters := 0, sParamPtr := fun _ => ⟨serialNumber, 0, 7⟩ } := by
  constructor
  · intro h
    exact absurd (h.noEcho (fun _ => 0) (fun _ => 1) 0 Nat.one_pos) (by decide)
  · intro h
    exact Nat.not_lt_zero 0 (h.inList 0 (List.mem_singleton_self 0))

end J2534Oip
