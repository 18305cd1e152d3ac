import J2534Oip.Wrapper.Load

/-!
# `J2534DllWrapper`: is the wrapper transparent?

A call through the wrapper should be the call of the DLL's function: the same arguments,
once, the same code and the same memory afterwards.  The record gets in the way where it
dereferences a pointer that may be NULL, where it takes more bytes from a message than
`Data` has, and where it reads a buffer as a text that the DLL's function has yet to fill.
For arguments the API allows:

    Transparent … ↔ RecordBuilds room room' f args mem mem' ∧ (f = ReadDetails → …)
                                                                          (transparent_iff)
-/

namespace J2534Oip.J2534DllWrapper

/-! ## Arguments the API allows -/

/-- The pointers that must not be NULL. -/
def required : FuncName → List Nat
  | .passThruOpen => [1]
  | .passThruConnect => [4]
  | .passThruReadMsgs => [2]
  | .passThruQueueMsgs => [2]
  | .passThruWriteMsgs => [2]
  | .passThruStartPeriodicMsg => [1, 2]
  | .passThruStartMsgFilter => [2, 3, 5]
  | .passThruReadVersion => [1, 2, 3]
  | .passThruGetLastError => [0]
  | .passThruReadIPSetup => [1, 2, 3, 4, 5]
  | .passThruWriteIPSetup => [1, 2, 3, 4, 5]
  | .passThruReadPCSetup => [0, 1]
  | .passThruScanForDevices => [0]
  | .passThruReadDetails => [0]
  | _ => []

/-- `pMsg` may be NULL when there are no messages: for a read, when it delivers none. -/
def Batch (f : FuncName) (args : List UInt32) (mem mem' : Memory) : Prop :=
  match f with
  | .passThruReadMsgs => args.getD 1 0 = 0 → mem'.long (args.getD 2 0) = 0
  | .passThruQueueMsgs => args.getD 1 0 = 0 → mem.long (args.getD 2 0) = 0
  | .passThruWriteMsgs => args.getD 1 0 = 0 → mem.long (args.getD 2 0) = 0
  | _ => True

/-- `mem` is the memory before the DLL's function runs, `mem'` after. -/
structure Allowed (f : FuncName) (args : List UInt32) (mem mem' : Memory) : Prop where
  required : ∀ i ∈ required f, args.getD i 0 ≠ 0
  batch : Batch f args mem mem'

/-! ## Which records build -/

/-- Two entry points dereference pointers that may be NULL: `pFlowControlMsg`, and the
three of `PassThruGetNextCarDAQ` with the strings the DLL leaves in two of them. -/
def NullFree (f : FuncName) (args : List UInt32) (mem' : Memory) : Prop :=
  match f with
  | .passThruStartMsgFilter => args.getD 4 0 ≠ 0
  | .passThruGetNextCarDAQ => args.getD 1 0 ≠ 0 ∧
    (args.getD 0 0 ≠ 0 → mem'.long (args.getD 0 0) ≠ 0 ∧
      args.getD 2 0 ≠ 0 ∧ mem'.long (args.getD 2 0) ≠ 0)
  | _ => True

/-- The messages a call logs: what it is given, or, whatever code it returned, what a read
finds at `pMsg` afterwards. -/
def loggedMsgs (f : FuncName) (args : List UInt32) (mem mem' : Memory) : List PassthruMsg :=
  match f with
  | .passThruReadMsgs => mem'.msgs (args.getD 1 0) (mem'.long (args.getD 2 0)).toNat
  | .passThruQueueMsgs => mem.msgs (args.getD 1 0) (mem.long (args.getD 2 0)).toNat
  | .passThruWriteMsgs => mem.msgs (args.getD 1 0) (mem.long (args.getD 2 0)).toNat
  | .passThruStartPeriodicMsg => [mem.msg (args.getD 1 0)]
  | .passThruStartMsgFilter =>
    [mem.msg (args.getD 2 0), mem.msg (args.getD 3 0), mem.msg (args.getD 4 0)]
  | _ => []

/-- The texts and the messages that a call logs are all there.  The texts that the DLL's
function is to write are logged before it too. -/
def Readable (room room' : Room) (f : FuncName) (args : List UInt32) (mem mem' : Memory) : Prop :=
  match f with
  | .passThruOpen => args.getD 0 0 ≠ 0 → mem.Ends room (args.getD 0 0)
  | .passThruReadMsgs => 4152 * (mem'.long (args.getD 2 0)).toNat ≤ room' (args.getD 1 0)
  | .passThruQueueMsgs => 4152 * (mem.long (args.getD 2 0)).toNat ≤ room (args.getD 1 0)
  | .passThruWriteMsgs => 4152 * (mem.long (args.getD 2 0)).toNat ≤ room (args.getD 1 0)
  | .passThruStartPeriodicMsg => 4152 ≤ room (args.getD 1 0)
  | .passThruStartMsgFilter => ∀ i ∈ [2, 3, 4], 4152 ≤ room (args.getD i 0)
  | .passThruReadVersion =>
    ∀ i ∈ [1, 2, 3], mem.Ends room (args.getD i 0) ∧ mem'.Ends room' (args.getD i 0)
  | .passThruGetLastError => mem.Ends room (args.getD 0 0) ∧ mem'.Ends room' (args.getD 0 0)
  | .passThruReadIPSetup =>
    ∀ i ∈ [1, 2, 3, 4, 5], mem.Ends room (args.getD i 0) ∧ mem'.Ends room' (args.getD i 0)
  | .passThruWriteIPSetup => ∀ i ∈ [1, 2, 3, 4, 5], mem.Ends room (args.getD i 0)
  | .passThruReadPCSetup =>
    ∀ i ∈ [0, 1], mem.Ends room (args.getD i 0) ∧ mem'.Ends room' (args.getD i 0)
  | .passThruGetNextCarDAQ => args.getD 0 0 ≠ 0 →
    mem'.Ends room' (mem'.long (args.getD 0 0)) ∧ mem'.Ends room' (mem'.long (args.getD 2 0))
  | _ => True

/-- No NULL is dereferenced for the record, no message claims more than `Data` has, and what is
read for it is there. -/
structure RecordBuilds (room room' : Room) (f : FuncName) (args : List UInt32)
    (mem mem' : Memory) : Prop where
  nullFree : NullFree f args mem'
  dataSize : ∀ msg ∈ loggedMsgs f args mem mem', msg.dataSize.toNat ≤ 4128
  readable : Readable room room' f args mem mem'

/-- The pointers a put dereferences whatever they are. -/
def derefs : Val → List Nat
  | .int (.deref i) => [i]
  | .str (.arg i) => [i]
  | .msgs (.deref j) i => [j, i]
  | .msgs _ i => [i]
  | _ => []

/-- Not one of the puts that first look at a pointer. -/
def unconditional : Val → Bool
  | .str (.derefUnlessNull _ _) => false
  | _ => true

theorem safe_of_derefs (c : Frame) (v : Val) (hv : unconditional v = true)
    (h : ∀ i ∈ derefs v, c.arg i ≠ 0) : v.Safe c := by
  cases v with
  | int iv => cases iv <;> simp_all [Val.Safe, IntVal.Safe, derefs]
  | str sv => cases sv <;> simp_all [Val.Safe, StrVal.Safe, derefs, unconditional]
  | msgs count i => cases count <;> simp_all [Val.Safe, IntVal.Safe, derefs]
  | tmpSDevice => trivial
  | sDevice i => trivial

/-- The entry points that only dereference what the API requires. -/
theorem derefs_required (f : FuncName)
    (hf : f ∉ [.passThruReadMsgs, .passThruQueueMsgs, .passThruWriteMsgs, .passThruStartMsgFilter,
      .passThruGetNextCarDAQ]) :
    ∀ put ∈ (entryPoint f).before ++ (entryPoint f).after,
      unconditional put.2 = true ∧ ∀ i ∈ derefs put.2, i ∈ required f := by
  cases f <;> first | exact absurd (by decide) hf | decide

theorem safe_of_required (f : FuncName)
    (hf : f ∉ [.passThruReadMsgs, .passThruQueueMsgs, .passThruWriteMsgs, .passThruStartMsgFilter,
      .passThruGetNextCarDAQ])
    (args : List UInt32) (h : ∀ i ∈ required f, args.getD i 0 ≠ 0) (mem mem' : Memory)
    (retval : UInt32) :
    (entryPoint f).SafeBefore args mem ∧ (entryPoint f).SafeAfter args mem' retval := by
  have hderefs := derefs_required f hf
  constructor
  · intro put hput
    obtain ⟨hv, hi⟩ := hderefs put (List.mem_append_left _ hput)
    exact safe_of_derefs _ _ hv fun i hmem => h i (hi i hmem)
  · intro put hput
    obtain ⟨hv, hi⟩ := hderefs put (List.mem_append_right _ hput)
    exact safe_of_derefs _ _ hv fun i hmem => h i (hi i hmem)

theorem safe_batch (f : FuncName)
    (hf : f ∈ [.passThruReadMsgs, .passThruQueueMsgs, .passThruWriteMsgs]) (args : List UInt32)
    (mem mem' : Memory) (retval : UInt32) (h : Allowed f args mem mem') :
    (entryPoint f).SafeBefore args mem ∧ (entryPoint f).SafeAfter args mem' retval := by
  have h2 : args.getD 2 0 ≠ 0 := by
    apply h.required
    rcases List.mem_cons.1 hf with rfl | hf
    · decide
    · rcases List.mem_pair.1 hf with rfl | rfl <;> decide
  have hbatch := h.batch
  unfold Forwarder.SafeBefore Forwarder.SafeAfter
  rcases List.mem_cons.1 hf with rfl | hf
  · simp only [entryPoint, passThruReadMsgs, List.forall_mem_cons, Val.safe_msgs_deref]
    exact ⟨⟨trivial, h2, trivial, trivial, by simp⟩, ⟨h2, hbatch⟩, h2, trivial, trivial, trivial,
      by simp⟩
  · rcases List.mem_pair.1 hf with rfl | rfl
    · simp only [entryPoint, passThruQueueMsgs, putRetval, List.forall_mem_cons,
        Val.safe_msgs_deref]
      exact ⟨⟨trivial, ⟨h2, hbatch⟩, h2, by simp⟩, trivial, by simp⟩
    · simp only [entryPoint, passThruWriteMsgs, putRetval, List.forall_mem_cons,
        Val.safe_msgs_deref]
      exact ⟨⟨trivial, ⟨h2, hbatch⟩, h2, trivial, by simp⟩, trivial, by simp⟩

/-- Which records get past NULL. -/
theorem safe_iff (f : FuncName) (args : List UInt32) (mem mem' : Memory) (retval : UInt32)
    (h : Allowed f args mem mem') :
    (entryPoint f).SafeBefore args mem ∧ (entryPoint f).SafeAfter args mem' retval ↔
      NullFree f args mem' := by
  cases f with
  | passThruStartMsgFilter =>
    have h2 : args.getD 2 0 ≠ 0 := h.required 2 (by decide)
    have h3 : args.getD 3 0 ≠ 0 := h.required 3 (by decide)
    have h5 : args.getD 5 0 ≠ 0 := h.required 5 (by decide)
    constructor
    · intro hsafe
      exact (Val.safe_msgs_one _ 4).1 (hsafe.1 (.param5, .msgs (.const 1) 4) (by decide))
    · intro h4
      have h4 : args.getD 4 0 ≠ 0 := h4
      unfold Forwarder.SafeBefore Forwarder.SafeAfter
      simp only [entryPoint, passThruStartMsgFilter, putRetval, List.forall_mem_cons,
        Val.safe_msgs_one]
      exact ⟨⟨trivial, trivial, h2, h3, h4, h5, by simp⟩, trivial, by simp⟩
  | passThruGetNextCarDAQ =>
    constructor
    · intro hsafe
      refine ⟨hsafe.1 (.param2, .int (.deref 1)) (by decide), ?_⟩
      intro h0
      exact ⟨(hsafe.2 (.param1, .str (.derefUnlessNull 0 0)) (by decide) h0).2,
        hsafe.2 (.param3, .str (.derefUnlessNull 0 2)) (by decide) h0⟩
    · rintro ⟨h1, hstrings⟩
      unfold Forwarder.SafeBefore Forwarder.SafeAfter
      simp only [entryPoint, passThruGetNextCarDAQ, List.forall_mem_cons]
      exact ⟨⟨trivial, h1, trivial, trivial, by simp⟩, fun h0 => ⟨h0, (hstrings h0).1⟩, h1,
        fun h0 => (hstrings h0).2, trivial, trivial, by simp⟩
  | passThruReadMsgs => exact iff_of_true (safe_batch _ (by decide) args mem mem' retval h) trivial
  | passThruQueueMsgs => exact iff_of_true (safe_batch _ (by decide) args mem mem' retval h) trivial
  | passThruWriteMsgs => exact iff_of_true (safe_batch _ (by decide) args mem mem' retval h) trivial
  | _ =>
    exact iff_of_true (safe_of_required _ (by decide) args h.required mem mem' retval) trivial

/-! ## Which messages are read -/

section
variable {Dll Proc : Type*} (exec : Proc → List UInt32 → Memory → UInt32 × Memory)

/-- The entry points whose record takes no messages. -/
theorem recordReads_eq_nil (p : Proc) (f : FuncName)
    (hf : f ∉ [.passThruReadMsgs, .passThruQueueMsgs, .passThruWriteMsgs, .passThruStartPeriodicMsg,
      .passThruStartMsgFilter]) (args : List UInt32) (mem : Memory) :
    (entryPoint f).recordReads exec (some p) args mem = [] := by
  have hputs : ∀ put ∈ (entryPoint f).before ++ (entryPoint f).after, put.2.noMsgs = true := by
    cases f <;> first | exact absurd (by decide) hf | decide
  have hbefore := putReads_eq_nil ⟨args, mem, errNotSupported⟩ (entryPoint f).before
    fun put hput => hputs put (List.mem_append_left _ hput)
  have hafter := putReads_eq_nil ⟨args, (exec p args mem).2, (exec p args mem).1⟩ (entryPoint f).after
    fun put hput => hputs put (List.mem_append_right _ hput)
  rw [Forwarder.recordReads, hbefore, hafter, List.append_nil]

theorem msgs_deref_lt_iff (c : Frame) (h2 : c.arg 2 ≠ 0)
    (hbatch : c.arg 1 = 0 → c.mem.long (c.arg 2) = 0) :
    (∀ r ∈ (Val.msgs (.deref 2) 1).dataReads c, r.offset < 4128) ↔
      ∀ msg ∈ c.mem.msgs (c.arg 1) (c.mem.long (c.arg 2)).toNat, msg.dataSize.toNat ≤ 4128 :=
  Val.msgs_dataReads_lt_iff c (.deref 2) 1 _ (if_neg h2) hbatch

theorem msgs_one_lt_iff (c : Frame) (i : Nat) (hi : c.arg i ≠ 0) :
    (∀ r ∈ (Val.msgs (.const 1) i).dataReads c, r.offset < 4128) ↔
      (c.mem.msg (c.arg i)).dataSize.toNat ≤ 4128 := by
  rw [Val.msgs_dataReads_lt_iff c (.const 1) i 1 rfl fun h => absurd h hi]
  show (∀ msg ∈ c.mem.msgs (c.arg i) 1, _) ↔ _
  rw [Memory.msgs_one]
  exact List.forall_mem_singleton

/-- **Which records stay within the messages.** -/
theorem recordReads_lt_iff (p : Proc) (f : FuncName) (args : List UInt32) (mem : Memory)
    (h : Allowed f args mem (exec p args mem).2) (hfree : NullFree f args (exec p args mem).2) :
    (∀ r ∈ (entryPoint f).recordReads exec (some p) args mem, r.offset < 4128) ↔
      ∀ msg ∈ loggedMsgs f args mem (exec p args mem).2, msg.dataSize.toNat ≤ 4128 := by
  let before : Frame := ⟨args, mem, errNotSupported⟩
  let after : Frame := ⟨args, (exec p args mem).2, (exec p args mem).1⟩
  cases f with
  | passThruReadMsgs =>
    have hreads : (entryPoint .passThruReadMsgs).recordReads exec (some p) args mem =
        (Val.msgs (.deref 2) 1).dataReads after := by
      simp [Forwarder.recordReads, putReads, entryPoint, passThruReadMsgs, Val.dataReads, after]
    rw [hreads]
    exact msgs_deref_lt_iff after (h.required 2 (by decide)) h.batch
  | passThruQueueMsgs =>
    have hreads : (entryPoint .passThruQueueMsgs).recordReads exec (some p) args mem =
        (Val.msgs (.deref 2) 1).dataReads before := by
      simp [Forwarder.recordReads, putReads, entryPoint, passThruQueueMsgs, putRetval,
        Val.dataReads, before]
    rw [hreads]
    exact msgs_deref_lt_iff before (h.required 2 (by decide)) h.batch
  | passThruWriteMsgs =>
    have hreads : (entryPoint .passThruWriteMsgs).recordReads exec (some p) args mem =
        (Val.msgs (.deref 2) 1).dataReads before := by
      simp [Forwarder.recordReads, putReads, entryPoint, passThruWriteMsgs, putRetval,
        Val.dataReads, before]
    rw [hreads]
    exact msgs_deref_lt_iff before (h.required 2 (by decide)) h.batch
  | passThruStartPeriodicMsg =>
    have hreads : (entryPoint .passThruStartPeriodicMsg).recordReads exec (some p) args mem =
        (Val.msgs (.const 1) 1).dataReads before := by
      simp [Forwarder.recordReads, putReads, entryPoint, passThruStartPeriodicMsg, putRetval,
        Val.dataReads, before]
    rw [hreads, msgs_one_lt_iff before 1 (h.required 1 (by decide))]
    simp only [loggedMsgs, List.forall_mem_singleton]
    exact Iff.rfl
  | passThruStartMsgFilter =>
    have hreads : (entryPoint .passThruStartMsgFilter).recordReads exec (some p) args mem =
        (Val.msgs (.const 1) 2).dataReads before ++ ((Val.msgs (.const 1) 3).dataReads before ++
          (Val.msgs (.const 1) 4).dataReads before) := by
      simp [Forwarder.recordReads, putReads, entryPoint, passThruStartMsgFilter, putRetval,
        Val.dataReads, before]
    rw [hreads, List.forall_mem_append, List.forall_mem_append,
      msgs_one_lt_iff before 2 (h.required 2 (by decide)),
      msgs_one_lt_iff before 3 (h.required 3 (by decide)), msgs_one_lt_iff before 4 hfree]
    simp only [loggedMsgs, List.forall_mem_cons, List.not_mem_nil, false_imp_iff, implies_true,
      and_true]
    exact Iff.rfl
  | _ =>
    rw [recordReads_eq_nil exec p _ (by decide) args mem]
    exact iff_of_true (fun r hr => absurd hr List.not_mem_nil)
      fun msg hmsg => absurd hmsg List.not_mem_nil

/-! ## What is there to read -/

/-- A put that reads no text and no messages. -/
def quiet : Val → Bool
  | .str .empty => true
  | .str _ => false
  | .msgs _ _ => false
  | _ => true

theorem within_of_quiet (room : Room) (c : Frame) (v : Val) (hv : quiet v = true) :
    v.Within room c := by
  cases v with
  | str sv =>
    cases sv with
    | empty => exact Val.within_str_empty room c
    | _ => cases hv
  | msgs count i => cases hv
  | _ => trivial

/-- The entry points whose record takes no text and no messages by a pointer. -/
theorem quiet_puts (f : FuncName)
    (hf : f ∉ [.passThruOpen, .passThruReadMsgs, .passThruQueueMsgs, .passThruWriteMsgs,
      .passThruStartPeriodicMsg, .passThruStartMsgFilter, .passThruReadVersion,
      .passThruGetLastError, .passThruReadIPSetup, .passThruWriteIPSetup, .passThruReadPCSetup,
      .passThruGetNextCarDAQ]) :
    ∀ put ∈ (entryPoint f).before ++ (entryPoint f).after, quiet put.2 = true := by
  cases f <;> first | exact absurd (by decide) hf | decide

/-- **Which records stay where memory is.** -/
theorem within_iff (room room' : Room) (p : Proc) (f : FuncName) (args : List UInt32)
    (mem : Memory) (h : Allowed f args mem (exec p args mem).2) :
    ((entryPoint f).WithinBefore room args mem ∧
        (entryPoint f).WithinAfter room room' exec args mem (some p)) ↔
      Readable room room' f args mem (exec p args mem).2 := by
  let before : Frame := ⟨args, mem, errNotSupported⟩
  let after : Frame := ⟨args, (exec p args mem).2, (exec p args mem).1⟩
  unfold Forwarder.WithinBefore Forwarder.WithinAfter
  cases f with
  | passThruOpen =>
    simp [entryPoint, passThruOpen, putRetval, Readable, Frame.arg]
  | passThruReadMsgs =>
    have hmsgs := Val.within_msgs_deref room' after 1 2 (h.required 2 (by decide))
    simp only [entryPoint, passThruReadMsgs, List.forall_mem_cons, List.not_mem_nil,
      false_imp_iff, implies_true, and_true, true_and, Val.within_int]
    exact hmsgs
  | passThruQueueMsgs =>
    have hmsgs := Val.within_msgs_deref room before 1 2 (h.required 2 (by decide))
    simp only [entryPoint, passThruQueueMsgs, putRetval, List.forall_mem_cons, List.not_mem_nil,
      false_imp_iff, implies_true, and_true, true_and, Val.within_int]
    exact hmsgs
  | passThruWriteMsgs =>
    have hmsgs := Val.within_msgs_deref room before 1 2 (h.required 2 (by decide))
    simp only [entryPoint, passThruWriteMsgs, putRetval, List.forall_mem_cons, List.not_mem_nil,
      false_imp_iff, implies_true, and_true, true_and, Val.within_int]
    exact hmsgs
  | passThruStartPeriodicMsg =>
    simp [entryPoint, passThruStartPeriodicMsg, putRetval, Readable, Frame.arg]
  | passThruStartMsgFilter =>
    simp [entryPoint, passThruStartMsgFilter, putRetval, Readable, Frame.arg]
  | passThruReadVersion =>
    simp only [entryPoint, passThruReadVersion, Readable, List.forall_mem_cons, List.not_mem_nil,
      false_imp_iff, implies_true, and_true, true_and, Val.within_int, Val.within_str_arg, Frame.arg]
    tauto
  | passThruGetLastError =>
    simp [entryPoint, passThruGetLastError, Readable, Frame.arg]
  | passThruReadIPSetup =>
    simp only [entryPoint, passThruReadIPSetup, Readable, List.forall_mem_cons, List.not_mem_nil,
      false_imp_iff, implies_true, and_true, true_and, Val.within_int, Val.within_str_arg, Frame.arg]
    tauto
  | passThruWriteIPSetup =>
    simp [entryPoint, passThruWriteIPSetup, putRetval, Readable, Frame.arg]
  | passThruReadPCSetup =>
    simp only [entryPoint, passThruReadPCSetup, Readable, List.forall_mem_cons, List.not_mem_nil,
      false_imp_iff, implies_true, and_true, Val.within_int, Val.within_str_arg, Frame.arg]
    tauto
  | passThruGetNextCarDAQ =>
    simp only [entryPoint, passThruGetNextCarDAQ, Readable, List.forall_mem_cons, List.not_mem_nil,
      false_imp_iff, implies_true, and_true, true_and, Val.within_int, Val.within_str_empty,
      Val.within_str_derefUnlessNull, Frame.arg]
    tauto
  | _ =>
    refine iff_of_true ⟨fun put hput => ?_, fun put hput => ?_⟩ trivial
    · exact within_of_quiet room _ _ (quiet_puts _ (by decide) put (List.mem_append_left _ hput))
    · exact within_of_quiet room' _ _ (quiet_puts _ (by decide) put (List.mem_append_right _ hput))

/-! ## Transparency -/

/-- The call is the call of `p`: once, with the same arguments in the same memory, and what
it returns and leaves is what `p` returns and leaves. -/
structure Transparent (p : Proc) (args : List UInt32) (mem : Memory) (o : Outcome Proc) : Prop where
  calls : o.calls = [(p, args, mem)]
  outputs : o.mem = (exec p args mem).2
  retval : ∃ r, o.result = some r ∧ r.retval = (exec p args mem).1

/-- The call that is not stopped by its encoder. -/
theorem transparent_passThru_iff (ptr : Option Proc) (p : Proc) (fw : Forwarder)
    (args : List UInt32) (mem : Memory) :
    Transparent exec p args mem (passThru exec ptr fw args mem) ↔
      Transparent exec p args mem (forward exec ptr fw args mem) ∧
        ∀ r ∈ fw.recordReads exec ptr args mem, r.offset < 4128 := by
  unfold passThru
  by_cases hreads : ∀ r ∈ fw.recordReads exec ptr args mem, r.offset < 4128
  · rw [if_pos hreads]
    exact (and_iff_left hreads).symm
  · rw [if_neg hreads]
    refine iff_of_false (fun h => ?_) fun h => hreads h.2
    obtain ⟨r, hr, -⟩ := h.retval
    cases hr

/-- The call that is not stopped where memory ends. -/
theorem transparent_passThruIn_iff (room room' : Room) (ptr : Option Proc) (p : Proc)
    (fw : Forwarder) (args : List UInt32) (mem : Memory) :
    Transparent exec p args mem (passThruIn room room' exec ptr fw args mem) ↔
      Transparent exec p args mem (passThru exec ptr fw args mem) ∧
        fw.WithinBefore room args mem ∧ fw.WithinAfter room room' exec args mem ptr := by
  unfold passThruIn
  by_cases hbefore : fw.WithinBefore room args mem
  · by_cases hafter : fw.WithinAfter room room' exec args mem ptr
    · rw [if_pos hbefore, if_pos hafter]
      exact (and_iff_left ⟨hbefore, hafter⟩).symm
    · rw [if_pos hbefore, if_neg hafter]
      refine iff_of_false (fun h => ?_) fun h => hafter h.2.2
      obtain ⟨r, hr, -⟩ := h.retval
      cases hr
  · rw [if_neg hbefore]
    exact iff_of_false (fun h => List.cons_ne_nil _ _ h.calls.symm) fun h => hbefore h.2.1

theorem transparent_iff_safe (ptr : Option Proc) (p : Proc) (f : FuncName) (args : List UInt32)
    (mem : Memory) :
    Transparent exec p args mem (forward exec ptr (entryPoint f) args mem) ↔
      ptr = some p ∧ (entryPoint f).SafeBefore args mem ∧
        (entryPoint f).SafeAfter args (exec p args mem).2 (exec p args mem).1 := by
  have hcalls := forwards_iff_ptr exec ptr (some p) f args mem
  constructor
  · intro h
    obtain ⟨hbefore, rfl⟩ := hcalls.1 h.calls
    exact ⟨rfl, hbefore, (forward_found exec (entryPoint f) args mem p hbefore).2.2.1 h.retval⟩
  · rintro ⟨rfl, hbefore, hafter⟩
    obtain ⟨hcall, hmem, hresult⟩ := forward_found exec (entryPoint f) args mem p hbefore
    exact ⟨hcall, hmem, hresult.2 hafter⟩

variable (getProcAddress : Dll → String → Option Proc)

/-- With a DLL loaded, the pointers that are looked up are its functions. -/
theorem ptr_run_eq_some_iff (prior : FuncName → Option Proc) (acts : List (Act Dll)) (dll : Dll)
    (p : Proc) (f : FuncName) (hload : (loads acts).loaded = some dll)
    (hexport : getProcAddress dll f.name = some p) :
    (run getProcAddress prior acts).ptr f = some p ↔
      (f = .passThruReadDetails → prior .passThruReadDetails = some p) := by
  have hagrees := agrees_run getProcAddress prior acts
  by_cases hf : f = .passThruReadDetails
  · subst hf
    rw [hagrees.readDetails]
    exact ⟨fun h _ => h, fun h => h rfl⟩
  · rw [hagrees.ptr f hf, hagrees.last dll hload]
    exact iff_of_true hexport fun h => absurd h hf

/-- **The wrapper is transparent where its record builds**, for every function the loaded
DLL exports; `PassThruReadDetails` only if its pointer, never looked up, was right. -/
theorem transparent_iff (room room' : Room) (prior : FuncName → Option Proc)
    (acts : List (Act Dll)) (dll : Dll) (p : Proc) (f : FuncName) (args : List UInt32) (mem : Memory)
    (hload : (loads acts).loaded = some dll) (hexport : getProcAddress dll f.name = some p)
    (hargs : Allowed f args mem (exec p args mem).2) :
    Transparent exec p args mem
        (passThruIn room room' exec ((run getProcAddress prior acts).ptr f) (entryPoint f) args
          mem) ↔
      RecordBuilds room room' f args mem (exec p args mem).2 ∧
        (f = .passThruReadDetails → prior .passThruReadDetails = some p) := by
  rw [transparent_passThruIn_iff, transparent_passThru_iff, transparent_iff_safe,
    safe_iff f args mem _ _ hargs]
  have hwithin := within_iff exec room room' p f args mem hargs
  constructor
  · rintro ⟨⟨⟨hptr, hfree⟩, hreads⟩, hin⟩
    rw [hptr] at hreads hin
    rw [recordReads_lt_iff exec p f args mem hargs hfree] at hreads
    exact ⟨⟨hfree, hreads, hwithin.1 hin⟩,
      (ptr_run_eq_some_iff getProcAddress prior acts dll p f hload hexport).1 hptr⟩
  · rintro ⟨⟨hfree, hsizes, hreadable⟩, hprior⟩
    have hptr := (ptr_run_eq_some_iff getProcAddress prior acts dll p f hload hexport).2 hprior
    rw [hptr, recordReads_lt_iff exec p f args mem hargs hfree]
    exact ⟨⟨⟨rfl, hfree⟩, hsizes⟩, hwithin.2 hreadable⟩

end

/-- A filter with a flow control message, set through a DLL whose functions return 0. -/
theorem transparent_startMsgFilter :
    let args : List UInt32 := [1, 3, 100, 100, 100, 100]
    Transparent (fun _ _ mem => (0, mem)) "PassThruStartMsgFilter" args (fun _ => 0)
        (passThruIn (fun _ => 4152) (fun _ => 4152) (fun _ _ mem => (0, mem))
          ((run (fun _ name => some name) (fun _ => none) [.loadDll (some ())]).ptr
            .passThruStartMsgFilter) (entryPoint .passThruStartMsgFilter) args fun _ => 0) ↔
      RecordBuilds (fun _ => 4152) (fun _ => 4152) .passThruStartMsgFilter args (fun _ => 0)
          (fun _ => 0) ∧
        (FuncName.passThruStartMsgFilter = .passThruReadDetails →
          (none : Option String) = some "PassThruStartMsgFilter") := by
  intro args
  exact transparent_iff (fun _ _ mem => (0, mem)) (fun _ name => some name) (fun _ => 4152)
    (fun _ => 4152) (fun _ => none) [.loadDll (some ())] () "PassThruStartMsgFilter"
    .passThruStartMsgFilter args (fun _ => 0) rfl rfl ⟨by decide, trivial⟩

/-- A pass filter has no flow control message; the wrapper dereferences the NULL. -/
theorem transparent_passFilter :
    ¬ ∀ (f : FuncName) (args : List UInt32) (mem : Memory), Allowed f args mem mem →
      Transparent (fun _ _ mem => (0, mem)) f.name args mem
        (passThruIn (fun _ => 4152) (fun _ => 4152) (fun _ _ mem => (0, mem))
          ((run (fun _ name => some name) (fun _ => none) [.loadDll (some ())]).ptr f)
          (entryPoint f) args mem) := by
  intro h
  have hsafe := h .passThruStartMsgFilter [1, 1, 100, 100, 0, 100] (fun _ => 0)
    ⟨by decide, trivial⟩
  rw [transparent_passThruIn_iff, transparent_passThru_iff, transparent_iff_safe] at hsafe
  have h4 := hsafe.1.1.2.1 (.param5, .msgs (.const 1) 4) (by decide)
  exact absurd rfl ((Val.safe_msgs_one _ 4).1 h4)

end J2534Oip.J2534DllWrapper
