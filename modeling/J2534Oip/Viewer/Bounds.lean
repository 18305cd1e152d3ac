import J2534Oip.Viewer.Cannelloni

/-!
# Bounds of the viewer's messages

`ExJ2534ReadMsgsList::processPipeMessage` copies the bytes under `KEY_Param7` into `Data`,
however many there are; `DataSize` comes from `KEY_Param5` and later bounds the loop that
renders `Data`.  Neither is checked.  So for any sequence of records

    StaysInBounds L msgs ↔ ∀ msg ∈ msgs, ∀ e ∈ elements L msg, EntryFits e
                                                                    (staysInBounds_iff)
-/

namespace J2534Oip.ExJ2534ReadMsgsList

open QCborValue QCborMap

/-! ## What is copied and what is read -/

/-- `sizeof(PASSTHRU_MSG::Data)` -/
def sizeofData : Nat := 4128

/-- `msgs[i]` for the indices of the loop. -/
def elements (L : CborLink) (msg : PipeMessage) : List Cbor :=
  let cborData := toMap (L.fromCbor msg.data)
  let param2 := value (intKey (PipeMessage.key .param2)) cborData
  if isInteger param2 then []
  else
    let cborMsgs := toMap param2
    let msgsCount := toInteger 0 (value (intKey 0) cborMsgs)
    let msgs := toArray (value (intKey 1) cborMsgs)
    (List.range msgsCount.toNat).map fun i => msgs.getD i undefined

/-- How many bytes `memcpy` copies into `Data`; both branches of the length check copy. -/
def copied (element : Cbor) : Nat :=
  (toByteArray (value (intKey (PipeMessage.key .param7)) (toMap element))).length

/-- `QString::number(b, 16)` -/
def hexNumber (b : UInt8) : String := String.ofList (Nat.toDigits 16 b.toNat)

/-- A step of the loop that renders `Data`; `none` where it reads behind the array. -/
def appendByte (row : PassthruMsg) (hex : String) (y : Nat) : Option String :=
  if h : y < 4128 then some (hex ++ (" " ++ hexNumber (row.data ⟨y, h⟩))) else none

/-- `data` for the role `Data` -/
def renderData (row : PassthruMsg) : Option String :=
  (List.range row.dataSize.toNat).foldlM (appendByte row) ""

example : renderData (.ofBytes [0, 0, 7, 0xE8]) = some " 0 0 7 e8" := by decide

/-- The list after the records. -/
def stored (L : CborLink) (msgs : List PipeMessage) : List PassthruMsg :=
  msgs.foldl (processPipeMessage L) []

/-- No copy and no rendering leaves `Data`. -/
structure StaysInBounds (L : CborLink) (msgs : List PipeMessage) : Prop where
  copies : ∀ msg ∈ msgs, ∀ element ∈ elements L msg, copied element ≤ sizeofData
  sizes : ∀ row ∈ stored L msgs, row.dataSize.toNat ≤ sizeofData
  renders : ∀ row ∈ stored L msgs, (renderData row).isSome = true

/-- An element with no more bytes, and no larger a size, than `Data` has. -/
structure EntryFits (element : Cbor) : Prop where
  bytes : ∀ bs, value (intKey (PipeMessage.key .param7)) (toMap element) = .bytes bs →
    bs.length ≤ sizeofData
  size : toInteger 0 (value (intKey (PipeMessage.key .param5)) (toMap element)) % 2 ^ 32 ≤ sizeofData

/-! ## The loops -/

theorem foldlM_isSome_iff (row : PassthruMsg) (ys : List Nat) (hex : String) :
    (ys.foldlM (appendByte row) hex).isSome = true ↔ ∀ y ∈ ys, y < sizeofData := by
  induction ys generalizing hex with
  | nil => simp
  | cons y ys ih =>
    rw [List.foldlM_cons, List.forall_mem_cons]
    by_cases h : y < sizeofData
    · have hstep : appendByte row hex y = some (hex ++ (" " ++ hexNumber (row.data ⟨y, h⟩))) :=
        dif_pos h
      rw [hstep]
      exact (ih _).trans (and_iff_right h).symm
    · have hstep : appendByte row hex y = none := dif_neg h
      rw [hstep]
      exact iff_of_false Bool.false_ne_true fun hall => h hall.1

/-- Rendering stays inside `Data` exactly up to a `DataSize` of 4128. -/
theorem renderData_isSome_iff (row : PassthruMsg) :
    (renderData row).isSome = true ↔ row.dataSize.toNat ≤ sizeofData := by
  rw [renderData, foldlM_isSome_iff]
  constructor
  · intro h
    by_contra hlt
    have hlast := h sizeofData (List.mem_range.2 (by omega))
    exact Nat.lt_irrefl _ hlast
  · intro h y hy
    have hlt := List.mem_range.1 hy
    omega

/-- A record appends a row for each of its elements. -/
theorem processPipeMessage_eq (L : CborLink) (objs : List PassthruMsg) (msg : PipeMessage) :
    processPipeMessage L objs msg = objs ++ (elements L msg).map messageOf := by
  rw [processPipeMessage, elements]
  simp only [addElement]
  split
  · rw [List.map_nil, List.append_nil]
  · rw [List.foldl_append_eq_append, ← List.flatMap_def, ← List.map_eq_flatMap, List.map_map]
    rfl

theorem stored_eq (L : CborLink) (msgs : List PipeMessage) :
    stored L msgs = msgs.flatMap fun msg => (elements L msg).map messageOf := by
  have hfold : ∀ objs, msgs.foldl (processPipeMessage L) objs =
      objs ++ msgs.flatMap fun msg => (elements L msg).map messageOf := by
    induction msgs with
    | nil => intro objs; exact (List.append_nil objs).symm
    | cons msg msgs ih =>
      intro objs
      rw [List.foldl_cons, ih, processPipeMessage_eq, List.flatMap_cons, List.append_assoc]
  rw [stored, hfold, List.nil_append]

theorem mem_stored (L : CborLink) (msgs : List PipeMessage) (row : PassthruMsg) :
    row ∈ stored L msgs ↔ ∃ msg ∈ msgs, ∃ element ∈ elements L msg, messageOf element = row := by
  simp only [stored_eq, List.mem_flatMap, List.mem_map]

/-! ## When they stay in bounds -/

theorem dataSize_messageOf (element : Cbor) : ((messageOf element).dataSize.toNat : Int) =
    toInteger 0 (value (intKey (PipeMessage.key .param5)) (toMap element)) % 2 ^ 32 := by
  have hfield : (messageOf element).dataSize =
      UInt32.ofInt (toInteger 0 (value (intKey (PipeMessage.key .param5)) (toMap element))) := rfl
  rw [hfield, UInt32.ofInt, UInt32.toNat_ofNat']
  omega

/-- The two bounds an element needs are those of its fields. -/
theorem entryFits_iff (element : Cbor) : EntryFits element ↔
    copied element ≤ sizeofData ∧ (messageOf element).dataSize.toNat ≤ sizeofData := by
  have hsize := dataSize_messageOf element
  constructor
  · rintro ⟨hbytes, hle⟩
    refine ⟨?_, by omega⟩
    rw [copied]
    cases hvalue : value (intKey (PipeMessage.key .param7)) (toMap element) with
    | bytes bs => exact hbytes bs hvalue
    | _ => exact Nat.zero_le _
  · rintro ⟨hcopied, hle⟩
    refine ⟨fun bs hvalue => ?_, by omega⟩
    rw [copied, hvalue] at hcopied
    exact hcopied

/-- **When records stay in bounds**: when each element of each of them fits. -/
theorem staysInBounds_iff (L : CborLink) (msgs : List PipeMessage) :
    StaysInBounds L msgs ↔ ∀ msg ∈ msgs, ∀ element ∈ elements L msg, EntryFits element := by
  constructor
  · intro h msg hmsg element helement
    have hstored : messageOf element ∈ stored L msgs :=
      (mem_stored L msgs _).2 ⟨msg, hmsg, element, helement, rfl⟩
    exact (entryFits_iff element).2 ⟨h.copies msg hmsg element helement, h.sizes _ hstored⟩
  · intro hfits
    have hsizes : ∀ row ∈ stored L msgs, row.dataSize.toNat ≤ sizeofData := by
      intro row hrow
      obtain ⟨msg, hmsg, element, helement, rfl⟩ := (mem_stored L msgs row).1 hrow
      exact ((entryFits_iff element).1 (hfits msg hmsg element helement)).2
    refine ⟨fun msg hmsg element helement => ?_, hsizes, fun row hrow => ?_⟩
    · exact ((entryFits_iff element).1 (hfits msg hmsg element helement)).1
    · exact (renderData_isSome_iff row).2 (hsizes row hrow)

/-- A record of one message that is nothing but a `DataSize` of 5000. -/
theorem staysInBounds_size :
    let record : Cbor := .map [(.int 2, .map [(.int 0, .int 1),
      (.int 1, .array [.map [(.int 5, .int 5000)]])])]
    let msg : PipeMessage := { id := 0, type := 0, dataType := 2, timestamp := 0, path := "",
                               message := "", data := Cbor.encode record }
    ¬StaysInBounds .rfc8949 [msg] := by
  intro record msg h
  have hsize : ((stored .rfc8949 [msg]).map fun row => row.dataSize) = [5000] := by decide
  obtain ⟨row, hrow, hrowSize⟩ : ∃ row ∈ stored .rfc8949 [msg], row.dataSize = 5000 := by
    have hmem : (5000 : UInt32) ∈ (stored .rfc8949 [msg]).map fun row => row.dataSize := by
      rw [hsize]
      exact List.mem_singleton_self _
    exact List.mem_map.1 hmem
  have hle := h.sizes row hrow
  rw [hrowSize] at hle
  exact absurd hle (by decide)

end J2534Oip.ExJ2534ReadMsgsList
