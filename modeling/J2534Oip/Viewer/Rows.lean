import J2534Oip.Lib.Rows
import J2534Oip.Viewer.Bounds
import J2534Oip.Viewer.Wrapper
import Mathlib.Data.List.GetD

/-!
# Rows of the viewer's lists

The four log lists are `QAbstractListModel`s over a list of pointers: they announce each row
before it comes or goes, and `data` answers for a row and a role.  `removeElement` announces
row -1 for a pointer that is not there; `removeElementByIndex` announces the index and
removes the first place where the pointer stands; and `data` lets the row after the last
one through its guard:

    RowsRight m heap ops r ↔ Each (m.apply) Kept [] ops ∧ r ≠ rowCount          (rowsRight_iff)
-/

namespace J2534Oip

open Rows

/-! ## List models -/

/-- What `data` returns; `invalid` is `QVariant()`. -/
inductive QVariant
  | invalid
  | string (s : String)
  | uint (n : UInt32)
  | longLong (n : Int64)
  | bool (b : Bool)
deriving DecidableEq

/-- What tells the lists apart: the row where an element comes in, and `data` of an object
for a role (`none` where it reads behind an array of the object). -/
structure ListModel (ω : Type*) where
  addRow : Nat → Nat
  addRow_le : ∀ n, addRow n ≤ n
  roleData : ω → Int → Option QVariant

/-- An operation on `p_objs`, a list of pointers. -/
inductive RowOp (π : Type*)
  | addElement (obj : π)
  | removeElement (obj : π)
  | removeElementByIndex (idx : Nat)

namespace ListModel

variable {ω π : Type*} (m : ListModel ω)

/-- `addElement`; appending is inserting at the end. -/
def addElement (pObjs : List π) (obj : π) : List π × Change π :=
  (pObjs.insertIdx (m.addRow pObjs.length) obj, .inserted (m.addRow pObjs.length) obj)

variable [DecidableEq π]

/-- `indexOf`, -1 for a pointer that is not there -/
def indexOf (pObjs : List π) (obj : π) : Int := if obj ∈ pObjs then pObjs.idxOf obj else -1

/-- `removeElement`; `removeOne` removes the first occurrence. -/
def removeElement (pObjs : List π) (obj : π) : List π × Change π :=
  (pObjs.erase obj, .removed (indexOf pObjs obj))

/-- `removeElementByIndex`, for an index of the list. -/
def removeElementByIndex (pObjs : List π) (idx : Nat) : List π × Change π :=
  match pObjs[idx]? with
  | none => (pObjs, .removed idx)
  | some obj => (pObjs.erase obj, .removed idx)

def apply (pObjs : List π) : RowOp π → List π × Change π
  | .addElement obj => m.addElement pObjs obj
  | .removeElement obj => removeElement pObjs obj
  | .removeElementByIndex idx => removeElementByIndex pObjs idx

omit [DecidableEq π] in
/-- `data(index, role)` for the objects the pointers point to; `none` where `p_objs[row]` is not
there. -/
def data (heap : π → ω) (pObjs : List π) (row role : Int) : Option QVariant :=
  if row < 0 ∨ (pObjs.length : Int) < row then some .invalid
  else
    match pObjs[row.toNat]? with
    | none => none
    | some obj => m.roleData (heap obj) role

end ListModel

/-- `Qt::UserRole` -/
def qtUserRole : Int := 0x0100

/-! ## The four lists -/

/-- `QDateTime::fromMSecsSinceEpoch(msecs).toString(format)` -/
abbrev DateText := Int → String → String

/-- `QString::number(n, 16)` -/
def hexNumber32 (n : UInt32) : String := String.ofList (Nat.toDigits 16 n.toNat)

/-- `ExJ2534ReadMsgsList`: `ID`, `HasError`, `ProtocolID`, `RxStatus`, `TxFlags`, `Timestamp`,
`DataSize`, `ExtraDataIndex`, `Data`. -/
def ExJ2534ReadMsgsList.roleData (date : DateText) (obj : PassthruMsg) (role : Int) :
    Option QVariant :=
  if role = qtUserRole + 1 then some (.string (ExJ2534ReadMsgsList.hexNumber (obj.data 0)))
  else if role = qtUserRole + 2 then some (.bool false)
  else if role = qtUserRole + 3 then some (.string (hexNumber32 obj.protocolID))
  else if role = qtUserRole + 4 then some (.string (hexNumber32 obj.rxStatus))
  else if role = qtUserRole + 5 then some (.string (hexNumber32 obj.txFlags))
  else if role = qtUserRole + 6 then some (.string (date obj.timestamp.toNat "[hh:mm:ss.zzz]"))
  else if role = qtUserRole + 7 then some (.uint obj.dataSize)
  else if role = qtUserRole + 8 then some (.uint obj.extraDataIndex)
  else if role = qtUserRole + 9 then (ExJ2534ReadMsgsList.renderData obj).map .string
  else some .invalid

/-- `ExJ2534Wrapper`: `ID`, `Timestamp`, `Message`, `HasError`. -/
def ExJ2534Wrapper.roleData (date : DateText) (obj : TimestampedObject) (role : Int) :
    Option QVariant :=
  if role = qtUserRole + 1 then some (.uint obj.msg.id)
  else if role = qtUserRole + 2 then some (.string (date obj.timestamp.toInt "[hh:mm:ss.zzz]"))
  else if role = qtUserRole + 3 then some (.string obj.msg.message)
  else if role = qtUserRole + 4 then some (.bool obj.hasError)
  else some .invalid

/-- `ExJ2534Cannelloni`: `ID`, `Timestamp`, `Message`, `DATA`. -/
def ExJ2534Cannelloni.roleData (date : DateText) (obj : TimestampedObject) (role : Int) :
    Option QVariant :=
  if role = qtUserRole + 1 then some (.uint obj.msg.id)
  else if role = qtUserRole + 2 then some (.string (date obj.timestamp.toInt "hh:mm:ss.zzz"))
  else if role = qtUserRole + 3 then some (.string obj.msg.message)
  else if role = qtUserRole + 4 then some (.string obj.data)
  else some .invalid

/-- `ExJ2534Emulator`: `ID`, `Timestamp`, `Message`. -/
def ExJ2534Emulator.roleData (obj : TimestampedObject) (role : Int) : Option QVariant :=
  if role = qtUserRole + 1 then some (.uint obj.msg.id)
  else if role = qtUserRole + 2 then some (.longLong obj.timestamp)
  else if role = qtUserRole + 3 then some (.string obj.msg.message)
  else some .invalid

/-- `beginInsertRows(QModelIndex(), this->rowCount(), this->rowCount())` -/
def ExJ2534ReadMsgsList.listModel (date : DateText) : ListModel PassthruMsg where
  addRow n := n
  addRow_le := Nat.le_refl
  roleData := ExJ2534ReadMsgsList.roleData date

/-- `beginInsertRows(QModelIndex(), 0, 0)` -/
def ExJ2534Wrapper.listModel (date : DateText) : ListModel TimestampedObject where
  addRow _ := 0
  addRow_le := Nat.zero_le
  roleData := ExJ2534Wrapper.roleData date

def ExJ2534Cannelloni.listModel (date : DateText) : ListModel TimestampedObject where
  addRow _ := 0
  addRow_le := Nat.zero_le
  roleData := ExJ2534Cannelloni.roleData date

def ExJ2534Emulator.listModel : ListModel TimestampedObject where
  addRow _ := 0
  addRow_le := Nat.zero_le
  roleData := ExJ2534Emulator.roleData

/-- On the objects, the lists grow as the tables of the viewer do. -/
theorem map_addElement {π : Type*} (date : DateText) (msgs : π → PassthruMsg)
    (objs : π → TimestampedObject) (pObjs : List π) (obj : π) :
    ((ExJ2534ReadMsgsList.listModel date).addElement pObjs obj).1.map msgs =
        ExJ2534ReadMsgsList.addElement (pObjs.map msgs) (msgs obj) ∧
      (∀ v : ExJ2534Wrapper, v.objs = pObjs.map objs →
        ((ExJ2534Wrapper.listModel date).addElement pObjs obj).1.map objs =
          (v.addElement (objs obj)).objs) ∧
      ∀ v : ExJ2534Cannelloni, v.objs = pObjs.map objs →
        ((ExJ2534Cannelloni.listModel date).addElement pObjs obj).1.map objs =
          (v.addElement (objs obj)).objs := by
  refine ⟨?_, fun v hv => ?_, fun v hv => ?_⟩
  · show (pObjs.insertIdx pObjs.length obj).map msgs = pObjs.map msgs ++ [msgs obj]
    rw [List.insertIdx_length_self, List.map_append, List.map_singleton]
  · show _ = objs obj :: v.objs
    rw [hv]
    rfl
  · show _ = objs obj :: v.objs
    rw [hv]
    rfl

/-! ## The property -/

namespace ListModel

variable {ω π : Type*} [DecidableEq π]

/-- An index is one of the list. -/
def Valid (pObjs : List π) : RowOp π → Prop
  | .addElement _ | .removeElement _ => True
  | .removeElementByIndex idx => idx < pObjs.length

/-- The view has the rows of the list after each operation, and outside the rows `data` reads
nothing and returns an empty value. -/
structure RowsRight (m : ListModel ω) (heap : π → ω) (ops : List (RowOp π)) (r : Int) : Prop where
  mirrored : Mirrored m.apply [] ops
  data : ¬(0 ≤ r ∧ r < (after m.apply [] ops).length) →
    ∀ role, m.data heap (after m.apply [] ops) r role = some .invalid

/-- A pointer to remove is there; from its first place up to an index to remove there is no
other pointer. -/
def Kept (pObjs : List π) : RowOp π → Prop
  | .addElement _ => True
  | .removeElement obj => obj ∈ pObjs
  | .removeElementByIndex idx => ∀ obj, pObjs[idx]? = some obj →
      ∀ j, pObjs.idxOf obj ≤ j → j ≤ idx → pObjs[j]? = some obj

/-! ## What each operation announces -/

theorem announced_addElement (m : ListModel ω) (pObjs : List π) (obj : π) :
    Announced m.apply pObjs (.addElement obj) := by
  show follow pObjs (.inserted (m.addRow pObjs.length) obj) = _
  rw [follow_inserted pObjs _ obj (m.addRow_le pObjs.length)]
  rfl

theorem announced_removeElement_iff (m : ListModel ω) (pObjs : List π) (obj : π) :
    Announced m.apply pObjs (.removeElement obj) ↔ obj ∈ pObjs := by
  show follow pObjs (.removed (indexOf pObjs obj)) = some (pObjs.erase obj) ↔ _
  by_cases hmem : obj ∈ pObjs
  · refine iff_of_true ?_ hmem
    rw [indexOf, if_pos hmem, follow_removed pObjs _ (List.idxOf_lt_length_of_mem hmem),
      List.eraseIdx_idxOf_eq_erase]
  · refine iff_of_false ?_ hmem
    rw [indexOf, if_neg hmem, follow_removed_neg pObjs (-1) (by omega)]
    exact (Option.some_ne_none _).symm

theorem announced_removeElementByIndex_iff (m : ListModel ω) (pObjs : List π) (idx : Nat)
    (h : idx < pObjs.length) :
    Announced m.apply pObjs (.removeElementByIndex idx) ↔ Kept pObjs (.removeElementByIndex idx) := by
  have hobj : pObjs[idx]? = some pObjs[idx] := List.getElem?_eq_getElem h
  have hfirst := idxOf_getElem_le pObjs idx h
  have happly : m.apply pObjs (.removeElementByIndex idx) = (pObjs.erase pObjs[idx], .removed idx) := by
    show removeElementByIndex pObjs idx = _
    unfold removeElementByIndex
    rw [hobj]
  unfold Announced
  rw [happly, follow_removed pObjs idx h, Option.some_inj, ← List.eraseIdx_idxOf_eq_erase, eq_comm,
    eraseIdx_eq_eraseIdx_iff _ _ _ hfirst, hobj]
  constructor
  · intro hall obj hobj' j
    rw [hobj] at hobj'
    obtain rfl := Option.some.inj hobj'
    exact hall j
  · intro hkept j
    exact hkept _ hobj j

theorem announced_iff (m : ListModel ω) (pObjs : List π) (op : RowOp π) (h : Valid pObjs op) :
    Announced m.apply pObjs op ↔ Kept pObjs op := by
  cases op with
  | addElement obj => exact iff_of_true (announced_addElement m pObjs obj) trivial
  | removeElement obj => exact announced_removeElement_iff m pObjs obj
  | removeElementByIndex idx => exact announced_removeElementByIndex_iff m pObjs idx h

omit [DecidableEq π] in
/-- The guard of `data` lets one row too many through. -/
theorem data_outside_iff (m : ListModel ω) (heap : π → ω) (pObjs : List π) (r : Int) :
    (¬(0 ≤ r ∧ r < pObjs.length) → ∀ role, m.data heap pObjs r role = some .invalid) ↔
      r ≠ pObjs.length := by
  constructor
  · rintro h rfl
    have hread := h (by omega) 0
    unfold data at hread
    rw [if_neg (by omega), Int.toNat_natCast, List.getElem?_eq_none (Nat.le_refl _)] at hread
    cases hread
  · intro hne hout role
    unfold data
    rw [if_pos (by omega)]

theorem rowsRight_model_iff (m : ListModel ω) (heap : π → ω) (ops : List (RowOp π)) (r : Int)
    (hvalid : Each m.apply Valid [] ops) :
    RowsRight m heap ops r ↔
      Each m.apply Kept [] ops ∧ r ≠ (after m.apply [] ops).length := by
  have hmirrored : Mirrored m.apply [] ops ↔ Each m.apply Kept [] ops :=
    (mirrored_iff [] ops).trans (each_congr (announced_iff m) [] ops hvalid)
  rw [← hmirrored, ← data_outside_iff m heap]
  exact ⟨fun h => ⟨h.mirrored, h.data⟩, fun h => ⟨h.1, h.2⟩⟩

end ListModel

/-! ## Main result -/

section
open ListModel

/-- **The rows of the four lists**, for any operations with valid indices and any row. -/
theorem rowsRight_iff {π : Type*} [DecidableEq π] (date : DateText) (msgs : π → PassthruMsg)
    (objs : π → TimestampedObject) (ops : List (RowOp π)) (r : Int) :
    (Each (ExJ2534ReadMsgsList.listModel date).apply Valid [] ops →
      (RowsRight (ExJ2534ReadMsgsList.listModel date) msgs ops r ↔
        Each (ExJ2534ReadMsgsList.listModel date).apply Kept [] ops ∧
          r ≠ (after (ExJ2534ReadMsgsList.listModel date).apply [] ops).length)) ∧
    (Each (ExJ2534Wrapper.listModel date).apply Valid [] ops →
      (RowsRight (ExJ2534Wrapper.listModel date) objs ops r ↔
        Each (ExJ2534Wrapper.listModel date).apply Kept [] ops ∧
          r ≠ (after (ExJ2534Wrapper.listModel date).apply [] ops).length)) ∧
    (Each (ExJ2534Cannelloni.listModel date).apply Valid [] ops →
      (RowsRight (ExJ2534Cannelloni.listModel date) objs ops r ↔
        Each (ExJ2534Cannelloni.listModel date).apply Kept [] ops ∧
          r ≠ (after (ExJ2534Cannelloni.listModel date).apply [] ops).length)) ∧
    (Each ExJ2534Emulator.listModel.apply Valid [] ops →
      (RowsRight ExJ2534Emulator.listModel objs ops r ↔
        Each ExJ2534Emulator.listModel.apply Kept [] ops ∧
          r ≠ (after ExJ2534Emulator.listModel.apply [] ops).length)) :=
  ⟨rowsRight_model_iff _ msgs ops r, rowsRight_model_iff _ objs ops r,
    rowsRight_model_iff _ objs ops r, rowsRight_model_iff _ objs ops r⟩

/-- An object of the wrapper's log. -/
def loggedObject : TimestampedObject :=
  { timestamp := 0,
    msg := { id := 1, type := 4, dataType := 2, timestamp := 0, path := "ecu.exe", message := "",
             data := [] } }

/-- Two elements come and the first of them goes again. -/
theorem rowsRight_iff_removed :
    let date : DateText := fun _ format => format
    let ops : List (RowOp Nat) := [.addElement 1, .addElement 2, .removeElement 1]
    RowsRight (ExJ2534ReadMsgsList.listModel date) (fun _ => .zero) ops 0 ∧
      RowsRight ExJ2534Emulator.listModel (fun _ => loggedObject) ops (-1) := by
  intro date ops
  have hreadMsgs := (rowsRight_iff date (fun _ => .zero) (fun _ => loggedObject) ops 0).1
  have hemulator := (rowsRight_iff date (fun _ => .zero) (fun _ => loggedObject) ops (-1)).2.2.2
  constructor
  · refine (hreadMsgs ⟨trivial, trivial, trivial, trivial⟩).2 ⟨⟨trivial, trivial, ?_, trivial⟩, ?_⟩
    · show 1 ∈ [1, 2]
      decide
    · decide
  · refine (hemulator ⟨trivial, trivial, trivial, trivial⟩).2 ⟨⟨trivial, trivial, ?_, trivial⟩, ?_⟩
    · show 1 ∈ [2, 1]
      decide
    · decide

/-- The row after the last one is read; a pointer that is not there takes row -1 away; the
second of two equal pointers takes the first one away. -/
theorem not_rowsRight :
    let m := ExJ2534Wrapper.listModel fun _ format => format
    let heap := fun _ : Nat => loggedObject
    ¬RowsRight m heap [] 0 ∧ ¬RowsRight m heap [.removeElement 1] (-1) ∧
      ¬RowsRight m heap
        [.addElement 1, .addElement 2, .addElement 1, .removeElementByIndex 2] (-1) := by
  intro m heap
  refine ⟨fun h => ?_, fun h => ?_, fun h => ?_⟩
  · exact absurd (h.data (by decide) 0) (by decide)
  · have hview := h.mirrored _ List.prefix_rfl
    exact absurd hview (by decide)
  · have hview := h.mirrored _ List.prefix_rfl
    exact absurd hview (by decide)

end

end J2534Oip
