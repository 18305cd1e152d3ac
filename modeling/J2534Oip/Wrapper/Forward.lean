import J2534Oip.CborUtils

/-!
# `J2534DllWrapper`: forwarding a call

The 35 entry points are one pattern: put the function and the arguments into a record,
call the DLL's function if its pointer is not null, put what came back (or an error),
send the record, return.  `Forwarder` is what an entry point fills in, `forward` the
pattern.  A call gets to its record's end unless a NULL pointer is dereferenced for it:

    SafeBefore → ((∃ r, (forward exec (some p) fw args mem).result = some r ∧ r.retval = code) ↔
      SafeAfter)                                                            (forward_found)

`passThru` is the call to its own end: encoding the record copies `DataSize` bytes of each
message, and a call that reads behind a `Data` for it need not come back.  `passThruIn` adds
where memory ends: a text is read up to its NUL, and of a batch all messages, when they are put.
-/

namespace J2534Oip

open Bytes CborUtils

/-! ## Memory of the process -/

/-- Pointers and `unsigned long` have 32 bits. -/
abbrev Memory := UInt32 → UInt8

namespace Memory

/-- The `unsigned long` at an address. -/
def long (m : Memory) (a : UInt32) : UInt32 :=
  UInt32.ofNat (ofLE [m a, m (a + 1), m (a + 2), m (a + 3)])

def bytes (m : Memory) (a : UInt32) (n : Nat) : List UInt8 :=
  (List.range n).map fun k => m (a + UInt32.ofNat k)

/-- At most `n` characters, up to the NUL. -/
def chars (m : Memory) : Nat → UInt32 → List UInt8
  | 0, _ => []
  | n + 1, a => if m a = 0 then [] else m a :: chars m n (a + 1)

/-- The string a `const char*` points to. -/
def cString (m : Memory) (a : UInt32) : List UInt8 := m.chars (2 ^ 32) a

/-- The `PASSTHRU_MSG` at an address: six numbers, then `Data`. -/
def msg (m : Memory) (a : UInt32) : PassthruMsg :=
  { protocolID := m.long a, rxStatus := m.long (a + 4), txFlags := m.long (a + 8),
    timestamp := m.long (a + 12), dataSize := m.long (a + 16), extraDataIndex := m.long (a + 20),
    data := fun j => m (a + 24 + UInt32.ofNat j) }

/-- An array of `sizeof(PASSTHRU_MSG) = 4152` byte elements. -/
def msgs (m : Memory) (a : UInt32) (n : Nat) : List PassthruMsg :=
  (List.range n).map fun i => m.msg (a + UInt32.ofNat (4152 * i))

end Memory

/-- `sizeof(SDEVICE)` -/
def sizeofSDevice : Nat := 104

theorem Memory.msgs_one (m : Memory) (a : UInt32) : m.msgs a 1 = [m.msg a] := by
  simp [Memory.msgs]

/-! ## What is put into a record -/

/-- What a put can read: the arguments, the memory and, after the call, its return code. -/
structure Frame where
  args : List UInt32
  mem : Memory
  retval : UInt32

def Frame.arg (c : Frame) (i : Nat) : UInt32 := c.args.getD i 0

/-- A number put with `map_put_int`. -/
inductive IntVal
  | const (n : UInt32)
  | arg (i : Nat)
  /-- `*p` of an argument -/
  | deref (i : Nat)
  | retval
deriving DecidableEq

/-- A string put with `map_put_string`. -/
inductive StrVal
  | empty
  | arg (i : Nat)
  /-- `(p == NULL ? "" : p)` -/
  | argOrEmpty (i : Nat)
  /-- `*p`, or `""` when argument `test` is NULL -/
  | derefUnlessNull (test i : Nat)
deriving DecidableEq

inductive Val
  | int (v : IntVal)
  | str (v : StrVal)
  /-- `map_put_PASSTHRU_MSG` of as many messages -/
  | msgs (count : IntVal) (i : Nat)
  /-- `map_put_data` of `_tmp_sdev` -/
  | tmpSDevice
  /-- `map_put_data` of `psDevice`, or of `_tmp_sdev` when it is NULL -/
  | sDevice (i : Nat)
deriving DecidableEq

/-- `none`: a NULL pointer is dereferenced. -/
def IntVal.eval (c : Frame) : IntVal → Option UInt32
  | .const n => some n
  | .arg i => some (c.arg i)
  | .deref i => if c.arg i = 0 then none else some (c.mem.long (c.arg i))
  | .retval => some c.retval

def StrVal.eval (c : Frame) : StrVal → Option (List UInt8)
  | .empty => some []
  | .arg i => if c.arg i = 0 then none else some (c.mem.cString (c.arg i))
  | .argOrEmpty i => if c.arg i = 0 then some [] else some (c.mem.cString (c.arg i))
  | .derefUnlessNull test i =>
    if c.arg test = 0 then some []
    else if c.arg i = 0 then none
    else if c.mem.long (c.arg i) = 0 then none
    else some (c.mem.cString (c.mem.long (c.arg i)))

/-- One put under a key.  cn-cbor borrows texts and `Data` by pointer and length, and copies them
when the record is encoded, after the DLL's function; here both are what they are at the put, as
for a function that leaves its arguments alone. -/
def Val.put (c : Frame) (key : Key) (map : List (Cbor × Cbor)) : Val → Option (List (Cbor × Cbor))
  | .int v => (v.eval c).map (mapPutInt map (ExPipeClient.key key))
  | .str v => (v.eval c).map (mapPutString map (ExPipeClient.key key))
  | .msgs count i =>
    match count.eval c with
    | none => none
    | some n =>
      -- the loop over the messages dereferences the pointer when there is one
      if n ≠ 0 ∧ c.arg i = 0 then none
      else some (mapPutPassthruMsg map (ExPipeClient.key key) n (c.mem.msgs (c.arg i) n.toNat))
  | .tmpSDevice =>
    some (mapPutData map (ExPipeClient.key key) (List.replicate sizeofSDevice 0))
  | .sDevice i =>
    if c.arg i = 0 then
      some (mapPutData map (ExPipeClient.key key) (List.replicate sizeofSDevice 0))
    else some (mapPutData map (ExPipeClient.key key) (c.mem.bytes (c.arg i) sizeofSDevice))

/-- Puts in order. -/
def putAll (c : Frame) : List (Key × Val) → List (Cbor × Cbor) → Option (List (Cbor × Cbor))
  | [], map => some map
  | (key, v) :: puts, map =>
    match v.put c key map with
    | none => none
    | some map => putAll c puts map

/-! ## The pattern -/

/-- The name `GetProcAddress` looks up. -/
def FuncName.name : FuncName → String
  | .passThruOpen => "PassThruOpen"
  | .passThruClose => "PassThruClose"
  | .passThruSelect => "PassThruSelect"
  | .passThruConnect => "PassThruConnect"
  | .passThruDisconnect => "PassThruDisconnect"
  | .passThruGetLastError => "PassThruGetLastError"
  | .passThruIoctl => "PassThruIoctl"
  | .passThruReadMsgs => "PassThruReadMsgs"
  | .passThruReadVersion => "PassThruReadVersion"
  | .passThruSetProgrammingVoltage => "PassThruSetProgrammingVoltage"
  | .passThruStartMsgFilter => "PassThruStartMsgFilter"
  | .passThruStartPeriodicMsg => "PassThruStartPeriodicMsg"
  | .passThruStopMsgFilter => "PassThruStopMsgFilter"
  | .passThruStopPeriodicMsg => "PassThruStopPeriodicMsg"
  | .passThruScanForDevices => "PassThruScanForDevices"
  | .passThruGetNextDevice => "PassThruGetNextDevice"
  | .passThruWriteMsgs => "PassThruWriteMsgs"
  | .passThruExConfigureWiFi => "PassThruExConfigureWiFi"
  | .passThruExDeviceWatchdog => "PassThruExDeviceWatchdog"
  | .passThruExDownloadCypheredFlashData => "PassThruExDownloadCypheredFlashData"
  | .passThruExEraseFlash => "PassThruExEraseFlash"
  | .passThruExInitiateCypheredFlashDownload => "PassThruExInitiateCypheredFlashDownload"
  | .passThruExReadFlash => "PassThruExReadFlash"
  | .passThruExResetFlash => "PassThruExResetFlash"
  | .passThruExRunSelfTest => "PassThruExRunSelfTest"
  | .passThruExWriteFlash => "PassThruExWriteFlash"
  | .passThruLoadFirmware => "PassThruLoadFirmware"
  | .passThruRecoverFirmware => "PassThruRecoverFirmware"
  | .passThruReadIPSetup => "PassThruReadIPSetup"
  | .passThruWriteIPSetup => "PassThruWriteIPSetup"
  | .passThruReadPCSetup => "PassThruReadPCSetup"
  | .passThruGetPointer => "PassThruGetPointer"
  | .passThruGetNextCarDAQ => "PassThruGetNextCarDAQ"
  | .passThruReadDetails => "PassThruReadDetails"
  | .passThruQueueMsgs => "PassThruQueueMsgs"

/-- What an entry point fills in. -/
structure Forwarder where
  /-- the entry point, and the DLL's function it calls -/
  func : FuncName
  /-- what it puts under `KEY_FuncName` -/
  funcName : FuncName
  /-- the positions of the arguments that are not pointers -/
  scalars : List Nat
  /-- puts before the call -/
  before : List (Key × Val)
  /-- puts after a call -/
  after : List (Key × Val)
  /-- puts, before the error text, when there is no function to call -/
  missing : List (Key × Val)
  /-- the text of the pipe message -/
  message : String

/-- The return code of a call, and the text of the pipe message it sent with its record as it was
put. -/
structure Returned where
  retval : UInt32
  message : String
  record : List (Cbor × Cbor)

/-- What a call does. -/
structure Outcome (Proc : Type*) where
  /-- the function pointers called, each with its arguments and the memory then -/
  calls : List (Proc × List UInt32 × Memory)
  mem : Memory
  /-- `none` when a NULL pointer was dereferenced on the way, or what is behind memory was read -/
  result : Option Returned

/-- `std::string("Function ").append(__FUNCTION__).append(" not found in DLL.")`, a temporary: its
memory is gone when the record is encoded. -/
def notFound (f : FuncName) : List UInt8 := utf8 ("Function " ++ f.name ++ " not found in DLL.")

def errNotSupported : UInt32 := UInt32.ofNat J2534Err.errNotSupported.code

/-- The record before the call. -/
def Forwarder.recordBefore (fw : Forwarder) (args : List UInt32) (mem : Memory) :
    Option (List (Cbor × Cbor)) :=
  putAll ⟨args, mem, errNotSupported⟩ fw.before
    (mapPutInt [] (ExPipeClient.key .funcName) (UInt32.ofNat (ExPipeClient.func fw.funcName)))

/-- An entry point called with `args`, its pointer being `ptr`; `exec` runs the code at a
pointer. -/
def forward {Proc : Type*} (exec : Proc → List UInt32 → Memory → UInt32 × Memory)
    (ptr : Option Proc) (fw : Forwarder) (args : List UInt32) (mem : Memory) : Outcome Proc :=
  match fw.recordBefore args mem with
  | none => { calls := [], mem := mem, result := none }
  | some map =>
    match ptr with
    | some p =>
      let retval := (exec p args mem).1
      let mem' := (exec p args mem).2
      { calls := [(p, args, mem)], mem := mem',
        result := (putAll ⟨args, mem', retval⟩ fw.after map).map fun map =>
          { retval := retval, message := fw.message, record := map } }
    | none =>
      { calls := [], mem := mem,
        result := (putAll ⟨args, mem, errNotSupported⟩ fw.missing map).map fun map =>
          { retval := errNotSupported, message := fw.message,
            record := mapPutString map (ExPipeClient.key .error) (notFound fw.func) } }

/-! ## What encoding a record reads of messages -/

/-- `pMsg[msg].Data[offset]` is read. -/
structure DataRead where
  msg : Nat
  offset : Nat
deriving DecidableEq

/-- The first `DataSize` bytes: what the printing loops read of `pMsg[i]`, and what the log
encoder reads of the pointer and the length it was given. -/
def dataReads (i : Nat) (msg : PassthruMsg) : List DataRead :=
  (List.range msg.dataSize.toNat).map fun y => { msg := i, offset := y }

/-- What `map_put_PASSTHRU_MSG` of a batch reads. -/
def batchReads (msgs : List PassthruMsg) : List DataRead :=
  msgs.zipIdx.flatMap fun p => dataReads p.2 p.1

/-- What a put of the wrapper reads of messages; nothing where it dereferences NULL. -/
def Val.dataReads (c : Frame) : Val → List DataRead
  | .msgs count i =>
    match count.eval c with
    | none => []
    | some n => if n ≠ 0 ∧ c.arg i = 0 then [] else batchReads (c.mem.msgs (c.arg i) n.toNat)
  | _ => []

def putReads (c : Frame) (puts : List (Key × Val)) : List DataRead :=
  puts.flatMap fun put => put.2.dataReads c

/-- What `cbor_to_data` of the record of a call reads of messages. -/
def Forwarder.recordReads {Proc : Type*} (exec : Proc → List UInt32 → Memory → UInt32 × Memory)
    (ptr : Option Proc) (fw : Forwarder) (args : List UInt32) (mem : Memory) : List DataRead :=
  putReads ⟨args, mem, errNotSupported⟩ fw.before ++
    match ptr with
    | some p => putReads ⟨args, (exec p args mem).2, (exec p args mem).1⟩ fw.after
    | none => putReads ⟨args, mem, errNotSupported⟩ fw.missing

/-- An entry point called, and its record encoded and sent: behind a `Data` there may be no
memory, so reading there the call need not come back. -/
def passThru {Proc : Type*} (exec : Proc → List UInt32 → Memory → UInt32 × Memory)
    (ptr : Option Proc) (fw : Forwarder) (args : List UInt32) (mem : Memory) : Outcome Proc :=
  let o := forward exec ptr fw args mem
  if ∀ r ∈ fw.recordReads exec ptr args mem, r.offset < 4128 then o else { o with result := none }

/-! ## Where memory ends -/

/-- How many bytes can be read from an address. -/
abbrev Room := UInt32 → Nat

/-- The text at an address has its NUL where it can be read. -/
def Memory.Ends (m : Memory) (room : Room) (a : UInt32) : Prop := 0 ∈ m.bytes a (room a)

instance (m : Memory) (room : Room) (a : UInt32) : Decidable (m.Ends room a) :=
  inferInstanceAs (Decidable (0 ∈ m.bytes a (room a)))

/-- Where the text is that a put reads. -/
def StrVal.addr (c : Frame) : StrVal → Option UInt32
  | .empty => none
  | .arg i => some (c.arg i)
  | .argOrEmpty i => if c.arg i = 0 then none else some (c.arg i)
  | .derefUnlessNull test i => if c.arg test = 0 then none else some (c.mem.long (c.arg i))

/-- The text or the messages that a put reads are there; a single number or device behind a
pointer is. -/
def Val.Within (room : Room) (c : Frame) : Val → Prop
  | .str v => ∀ a ∈ v.addr c, c.mem.Ends room a
  | .msgs count i => ∀ n ∈ count.eval c, 4152 * n.toNat ≤ room (c.arg i)
  | _ => True

instance (room : Room) (c : Frame) : (v : Val) → Decidable (v.Within room c)
  | .str v => inferInstanceAs (Decidable (∀ a ∈ v.addr c, c.mem.Ends room a))
  | .msgs count i =>
    inferInstanceAs (Decidable (∀ n ∈ count.eval c, 4152 * n.toNat ≤ room (c.arg i)))
  | .int _ | .tmpSDevice | .sDevice _ => isTrue trivial

def Forwarder.WithinBefore (room : Room) (fw : Forwarder) (args : List UInt32) (mem : Memory) :
    Prop :=
  ∀ put ∈ fw.before, put.2.Within room ⟨args, mem, errNotSupported⟩

instance (room : Room) (fw : Forwarder) (args : List UInt32) (mem : Memory) :
    Decidable (fw.WithinBefore room args mem) :=
  inferInstanceAs (Decidable (∀ put ∈ fw.before, put.2.Within room ⟨args, mem, errNotSupported⟩))

/-- The puts after the DLL's function, if there is one: `room'` is what it leaves. -/
def Forwarder.WithinAfter {Proc : Type*} (room room' : Room)
    (exec : Proc → List UInt32 → Memory → UInt32 × Memory) (fw : Forwarder) (args : List UInt32)
    (mem : Memory) : Option Proc → Prop
  | some p => ∀ put ∈ fw.after, put.2.Within room' ⟨args, (exec p args mem).2, (exec p args mem).1⟩
  | none => ∀ put ∈ fw.missing, put.2.Within room ⟨args, mem, errNotSupported⟩

instance {Proc : Type*} (room room' : Room) (exec : Proc → List UInt32 → Memory → UInt32 × Memory)
    (fw : Forwarder) (args : List UInt32) (mem : Memory) :
    (ptr : Option Proc) → Decidable (fw.WithinAfter room room' exec args mem ptr)
  | some p => inferInstanceAs (Decidable
      (∀ put ∈ fw.after, put.2.Within room' ⟨args, (exec p args mem).2, (exec p args mem).1⟩))
  | none => inferInstanceAs (Decidable
      (∀ put ∈ fw.missing, put.2.Within room ⟨args, mem, errNotSupported⟩))

/-- An entry point called, in memory that ends. -/
def passThruIn {Proc : Type*} (room room' : Room)
    (exec : Proc → List UInt32 → Memory → UInt32 × Memory) (ptr : Option Proc) (fw : Forwarder)
    (args : List UInt32) (mem : Memory) : Outcome Proc :=
  if fw.WithinBefore room args mem then
    let o := passThru exec ptr fw args mem
    if fw.WithinAfter room room' exec args mem ptr then o else { o with result := none }
  else { calls := [], mem := mem, result := none }

section
variable (room : Room) (c : Frame) (i : Nat)

@[simp] theorem Val.within_int (v : IntVal) : (Val.int v).Within room c := trivial

@[simp] theorem Val.within_tmpSDevice : Val.tmpSDevice.Within room c := trivial

@[simp] theorem Val.within_sDevice : (Val.sDevice i).Within room c := trivial

@[simp] theorem Val.within_str_empty : (Val.str .empty).Within room c := nofun

@[simp] theorem Val.within_str_arg :
    (Val.str (.arg i)).Within room c ↔ c.mem.Ends room (c.arg i) := by
  simp [Val.Within, StrVal.addr]

@[simp] theorem Val.within_str_argOrEmpty : (Val.str (.argOrEmpty i)).Within room c ↔
    (c.arg i ≠ 0 → c.mem.Ends room (c.arg i)) := by
  by_cases hi : c.arg i = 0 <;> simp [Val.Within, StrVal.addr, hi]

@[simp] theorem Val.within_str_derefUnlessNull (test : Nat) :
    (Val.str (.derefUnlessNull test i)).Within room c ↔
      (c.arg test ≠ 0 → c.mem.Ends room (c.mem.long (c.arg i))) := by
  by_cases ht : c.arg test = 0 <;> simp [Val.Within, StrVal.addr, ht]

@[simp] theorem Val.within_msgs_one :
    (Val.msgs (.const 1) i).Within room c ↔ 4152 ≤ room (c.arg i) := by
  simp [Val.Within, IntVal.eval]

theorem Val.within_msgs_deref (j : Nat) (hj : c.arg j ≠ 0) : (Val.msgs (.deref j) i).Within room c ↔
    4152 * (c.mem.long (c.arg j)).toNat ≤ room (c.arg i) := by
  simp [Val.Within, IntVal.eval, hj]

end

/-! ## Messages that a record reads -/

theorem dataReads_lt_iff (i : Nat) (msg : PassthruMsg) :
    (∀ r ∈ dataReads i msg, r.offset < 4128) ↔ msg.dataSize.toNat ≤ 4128 := by
  simp only [dataReads, List.forall_mem_map, List.mem_range]
  constructor
  · intro h
    by_contra hlt
    exact Nat.lt_irrefl _ (h 4128 (Nat.lt_of_not_le hlt))
  · intro h y hy
    omega

theorem batchReads_lt_iff (msgs : List PassthruMsg) :
    (∀ r ∈ batchReads msgs, r.offset < 4128) ↔ ∀ msg ∈ msgs, msg.dataSize.toNat ≤ 4128 := by
  simp only [batchReads, List.forall_mem_flatMap, dataReads_lt_iff]
  constructor
  · intro h msg hmsg
    obtain ⟨k, hk⟩ := List.getElem?_of_mem hmsg
    exact h (msg, k) (List.mk_mem_zipIdx_iff_getElem?.2 hk)
  · rintro h ⟨msg, k⟩ hmem
    exact h msg (List.mem_of_getElem? (List.mk_mem_zipIdx_iff_getElem?.1 hmem))

/-- A put that can read its messages reads each within `Data` when no `DataSize` is larger. -/
theorem Val.msgs_dataReads_lt_iff (c : Frame) (count : IntVal) (i : Nat) (n : UInt32)
    (hn : count.eval c = some n) (hnull : c.arg i = 0 → n = 0) :
    (∀ r ∈ (Val.msgs count i).dataReads c, r.offset < 4128) ↔
      ∀ msg ∈ c.mem.msgs (c.arg i) n.toNat, msg.dataSize.toNat ≤ 4128 := by
  have hread : ¬(n ≠ 0 ∧ c.arg i = 0) := fun h => h.1 (hnull h.2)
  simp only [Val.dataReads, hn, if_neg hread]
  exact batchReads_lt_iff _

/-- No put of messages. -/
def Val.noMsgs : Val → Bool
  | .msgs _ _ => false
  | _ => true

theorem putReads_eq_nil (c : Frame) (puts : List (Key × Val))
    (h : ∀ put ∈ puts, put.2.noMsgs = true) : putReads c puts = [] := by
  refine List.flatMap_eq_nil_iff.2 fun put hput => ?_
  obtain ⟨key, v⟩ := put
  cases v with
  | msgs count i => exact absurd (h _ hput) Bool.false_ne_true
  | _ => rfl

/-! ## Which puts are safe -/

def IntVal.Safe (c : Frame) : IntVal → Prop
  | .deref i => c.arg i ≠ 0
  | _ => True

def StrVal.Safe (c : Frame) : StrVal → Prop
  | .arg i => c.arg i ≠ 0
  | .derefUnlessNull test i => c.arg test ≠ 0 → c.arg i ≠ 0 ∧ c.mem.long (c.arg i) ≠ 0
  | _ => True

/-- The put dereferences no NULL pointer. -/
def Val.Safe (c : Frame) : Val → Prop
  | .int v => v.Safe c
  | .str v => v.Safe c
  | .msgs count i => count.Safe c ∧ (c.arg i = 0 → count.eval c = some 0)
  | _ => True

section
variable (c : Frame) (i : Nat)

@[simp] theorem Val.safe_int_const (n : UInt32) : (Val.int (.const n)).Safe c := trivial

@[simp] theorem Val.safe_int_arg : (Val.int (.arg i)).Safe c := trivial

@[simp] theorem Val.safe_int_retval : (Val.int .retval).Safe c := trivial

@[simp] theorem Val.safe_int_deref : (Val.int (.deref i)).Safe c ↔ c.arg i ≠ 0 := Iff.rfl

@[simp] theorem Val.safe_str_empty : (Val.str .empty).Safe c := trivial

@[simp] theorem Val.safe_str_arg : (Val.str (.arg i)).Safe c ↔ c.arg i ≠ 0 := Iff.rfl

@[simp] theorem Val.safe_str_argOrEmpty : (Val.str (.argOrEmpty i)).Safe c := trivial

@[simp] theorem Val.safe_str_derefUnlessNull (test : Nat) :
    (Val.str (.derefUnlessNull test i)).Safe c ↔
      (c.arg test ≠ 0 → c.arg i ≠ 0 ∧ c.mem.long (c.arg i) ≠ 0) := Iff.rfl

/-- A batch as long as `*p` needs `p`, and the messages when there are some. -/
@[simp] theorem Val.safe_msgs_deref (j : Nat) : (Val.msgs (.deref j) i).Safe c ↔
    c.arg j ≠ 0 ∧ (c.arg i = 0 → c.mem.long (c.arg j) = 0) := by
  simp only [Val.Safe, IntVal.Safe, IntVal.eval]
  refine and_congr_right fun hj => ?_
  rw [if_neg hj, Option.some.injEq]

/-- A batch of one needs the message. -/
@[simp] theorem Val.safe_msgs_one : (Val.msgs (.const 1) i).Safe c ↔ c.arg i ≠ 0 := by
  simp [Val.Safe, IntVal.Safe, IntVal.eval]

@[simp] theorem Val.safe_tmpSDevice : Val.tmpSDevice.Safe c := trivial

@[simp] theorem Val.safe_sDevice : (Val.sDevice i).Safe c := trivial

end

theorem IntVal.eval_of_safe (c : Frame) (v : IntVal) (h : v.Safe c) : ∃ n, v.eval c = some n := by
  cases v with
  | deref i =>
    have hi : c.arg i ≠ 0 := h
    exact ⟨_, if_neg hi⟩
  | _ => exact ⟨_, rfl⟩

theorem IntVal.eval_of_not_safe (c : Frame) (v : IntVal) (h : ¬v.Safe c) : v.eval c = none := by
  cases v with
  | deref i =>
    have hi : c.arg i = 0 := Classical.not_not.1 h
    exact if_pos hi
  | _ => exact absurd trivial h

theorem StrVal.eval_of_safe (c : Frame) (v : StrVal) (h : v.Safe c) : ∃ s, v.eval c = some s := by
  cases v with
  | empty => exact ⟨_, rfl⟩
  | arg i =>
    have hi : c.arg i ≠ 0 := h
    exact ⟨_, if_neg hi⟩
  | argOrEmpty i =>
    by_cases hi : c.arg i = 0
    · exact ⟨_, if_pos hi⟩
    · exact ⟨_, if_neg hi⟩
  | derefUnlessNull test i =>
    by_cases ht : c.arg test = 0
    · exact ⟨_, if_pos ht⟩
    · obtain ⟨hi, hp⟩ := h ht
      exact ⟨_, by simp only [StrVal.eval, if_neg ht, if_neg hi, if_neg hp]; rfl⟩

theorem StrVal.eval_of_not_safe (c : Frame) (v : StrVal) (h : ¬v.Safe c) : v.eval c = none := by
  cases v with
  | arg i =>
    have hi : c.arg i = 0 := Classical.not_not.1 h
    exact if_pos hi
  | derefUnlessNull test i =>
    simp only [StrVal.Safe, Classical.not_imp, not_and_or, Classical.not_not] at h
    obtain ⟨ht, hi | hp⟩ := h
    · simp only [StrVal.eval, if_neg ht, if_pos hi]
    · simp only [StrVal.eval, if_neg ht, if_pos hp, ite_self]
  | _ => exact absurd trivial h

/-- A safe put appends one entry, a number that number. -/
theorem Val.put_of_safe (c : Frame) (v : Val) (h : v.Safe c) :
    ∃ x, (∀ key map, v.put c key map = some (map ++ [(.int (ExPipeClient.key key), x)])) ∧
      ∀ iv, v = .int iv → ∃ n, iv.eval c = some n ∧ x = .int n.toNat := by
  cases v with
  | int iv =>
    obtain ⟨n, hn⟩ := iv.eval_of_safe c h
    refine ⟨.int n.toNat, ?_, ?_⟩
    · intro key map
      simp only [Val.put, hn, Option.map_some, mapPutInt]
    · rintro iv' ⟨⟩
      exact ⟨n, hn, rfl⟩
  | str sv =>
    obtain ⟨s, hs⟩ := sv.eval_of_safe c h
    refine ⟨.text s, ?_, by rintro iv ⟨⟩⟩
    intro key map
    simp only [Val.put, hs, Option.map_some, mapPutString]
  | msgs count i =>
    obtain ⟨n, hn⟩ := count.eval_of_safe c h.1
    have hnull : ¬(n ≠ 0 ∧ c.arg i = 0) := by
      rintro ⟨hne, hi⟩
      have hzero := h.2 hi
      rw [hn] at hzero
      exact hne (Option.some.inj hzero)
    obtain ⟨x, hx⟩ := mapPutPassthruMsg_append n (c.mem.msgs (c.arg i) n.toNat)
    refine ⟨x, ?_, by rintro iv ⟨⟩⟩
    intro key map
    simp only [Val.put, hn, if_neg hnull, hx]
  | tmpSDevice =>
    refine ⟨.bytes (List.replicate sizeofSDevice 0), ?_, by rintro iv ⟨⟩⟩
    intro key map
    rfl
  | sDevice i =>
    by_cases hi : c.arg i = 0
    · refine ⟨.bytes (List.replicate sizeofSDevice 0), ?_, by rintro iv ⟨⟩⟩
      intro key map
      exact if_pos hi
    · refine ⟨.bytes (c.mem.bytes (c.arg i) sizeofSDevice), ?_, by rintro iv ⟨⟩⟩
      intro key map
      exact if_neg hi

theorem Val.put_of_not_safe (c : Frame) (v : Val) (h : ¬v.Safe c) (key : Key)
    (map : List (Cbor × Cbor)) : v.put c key map = none := by
  cases v with
  | int iv => simp only [Val.put, iv.eval_of_not_safe c h, Option.map_none]
  | str sv => simp only [Val.put, sv.eval_of_not_safe c h, Option.map_none]
  | msgs count i =>
    by_cases hc : count.Safe c
    · obtain ⟨n, hn⟩ := count.eval_of_safe c hc
      have hnull : n ≠ 0 ∧ c.arg i = 0 := by
        simp only [Val.Safe, hc, true_and, hn, Option.some.injEq, Classical.not_imp] at h
        exact ⟨h.2, h.1⟩
      simp only [Val.put, hn, if_pos hnull]
    · simp only [Val.put, count.eval_of_not_safe c hc]
  | _ => exact absurd trivial h

/-- **Puts go through iff all of them are safe.**  They append an entry for each, in order. -/
theorem putAll_of_safe (c : Frame) (puts : List (Key × Val)) (map : List (Cbor × Cbor))
    (h : ∀ put ∈ puts, put.2.Safe c) :
    ∃ entries, putAll c puts map = some (map ++ entries) ∧
      entries.map Prod.fst = puts.map (fun put => .int (ExPipeClient.key put.1)) ∧
      ∀ key iv, (key, .int iv) ∈ puts → ∃ n, iv.eval c = some n ∧
        (.int (ExPipeClient.key key), .int n.toNat) ∈ entries := by
  induction puts generalizing map with
  | nil => exact ⟨[], by simp [putAll], rfl, by simp⟩
  | cons put puts ih =>
    obtain ⟨key, v⟩ := put
    obtain ⟨x, hput, hint⟩ := v.put_of_safe c (h _ List.mem_cons_self)
    obtain ⟨entries, hall, hkeys, hints⟩ := ih (map ++ [(.int (ExPipeClient.key key), x)])
      fun put hmem => h put (List.mem_cons_of_mem _ hmem)
    refine ⟨(.int (ExPipeClient.key key), x) :: entries, ?_, ?_, ?_⟩
    · simp only [putAll, hput, hall, List.append_assoc, List.singleton_append]
    · rw [List.map_cons, List.map_cons, hkeys]
    · intro key' iv hmem
      rcases List.mem_cons.1 hmem with heq | hmem
      · obtain ⟨rfl, rfl⟩ := Prod.mk.inj heq
        obtain ⟨n, hn, rfl⟩ := hint iv rfl
        exact ⟨n, hn, List.mem_cons_self⟩
      · obtain ⟨n, hn, hentry⟩ := hints key' iv hmem
        exact ⟨n, hn, List.mem_cons_of_mem _ hentry⟩

theorem putAll_of_not_safe (c : Frame) (puts : List (Key × Val)) (map : List (Cbor × Cbor))
    (h : ¬∀ put ∈ puts, put.2.Safe c) : putAll c puts map = none := by
  induction puts generalizing map with
  | nil => exact absurd (by simp) h
  | cons put puts ih =>
    obtain ⟨key, v⟩ := put
    by_cases hv : v.Safe c
    · obtain ⟨x, hput, -⟩ := v.put_of_safe c hv
      have hrest : ¬∀ put ∈ puts, put.2.Safe c := by
        intro hrest
        exact h (List.forall_mem_cons.2 ⟨hv, hrest⟩)
      simp only [putAll, hput]
      exact ih _ hrest
    · simp only [putAll, v.put_of_not_safe c hv]

/-! ## What a call does -/

section
variable {Proc : Type*} (exec : Proc → List UInt32 → Memory → UInt32 × Memory) (fw : Forwarder)
  (args : List UInt32) (mem : Memory)

/-- The puts before the call are safe. -/
def Forwarder.SafeBefore : Prop :=
  ∀ put ∈ fw.before, put.2.Safe ⟨args, mem, errNotSupported⟩

/-- The puts after a call that returned `retval` and left `mem` are safe. -/
def Forwarder.SafeAfter (retval : UInt32) : Prop :=
  ∀ put ∈ fw.after, put.2.Safe ⟨args, mem, retval⟩

theorem forward_of_not_safe (ptr : Option Proc) (h : ¬fw.SafeBefore args mem) :
    forward exec ptr fw args mem = { calls := [], mem := mem, result := none } := by
  have hrecord : fw.recordBefore args mem = none := putAll_of_not_safe _ _ _ h
  simp only [forward, hrecord]

/-- With a function to call, the call is made and its code and memory are the DLL's. -/
theorem forward_found (p : Proc) (h : fw.SafeBefore args mem) :
    (forward exec (some p) fw args mem).calls = [(p, args, mem)] ∧
      (forward exec (some p) fw args mem).mem = (exec p args mem).2 ∧
      ((∃ r, (forward exec (some p) fw args mem).result = some r ∧ r.retval = (exec p args mem).1) ↔
        fw.SafeAfter args (exec p args mem).2 (exec p args mem).1) := by
  obtain ⟨before, hbefore, -⟩ := putAll_of_safe _ fw.before
    (mapPutInt [] (ExPipeClient.key .funcName) (UInt32.ofNat (ExPipeClient.func fw.funcName))) h
  have hrecord : fw.recordBefore args mem = some _ := hbefore
  simp only [forward, hrecord, true_and]
  constructor
  · rintro ⟨r, hr, -⟩
    apply Classical.byContradiction
    intro hunsafe
    rw [putAll_of_not_safe _ _ _ hunsafe] at hr
    cases hr
  · intro hsafe
    obtain ⟨after, hafter, -⟩ := putAll_of_safe ⟨args, (exec p args mem).2, (exec p args mem).1⟩
      fw.after _ hsafe
    exact ⟨_, by rw [hafter, Option.map_some], rfl⟩

/-- Without one, nothing is called and the code is `ERR_NOT_SUPPORTED`. -/
theorem forward_missing (h : fw.SafeBefore args mem)
    (hmissing : ∀ put ∈ fw.missing, put.2.Safe ⟨args, mem, errNotSupported⟩) :
    (forward exec none fw args mem).calls = [] ∧ (forward exec none fw args mem).mem = mem ∧
      ∃ r, (forward exec none fw args mem).result = some r ∧ r.retval = errNotSupported := by
  obtain ⟨before, hbefore, -⟩ := putAll_of_safe _ fw.before
    (mapPutInt [] (ExPipeClient.key .funcName) (UInt32.ofNat (ExPipeClient.func fw.funcName))) h
  have hrecord : fw.recordBefore args mem = some _ := hbefore
  obtain ⟨missing, hput, -⟩ := putAll_of_safe ⟨args, mem, errNotSupported⟩ fw.missing
    (mapPutInt [] (ExPipeClient.key .funcName) (UInt32.ofNat (ExPipeClient.func fw.funcName)) ++
      before) hmissing
  simp only [forward, hrecord, true_and]
  exact ⟨_, by rw [hput, Option.map_some], rfl⟩

end

end J2534Oip
