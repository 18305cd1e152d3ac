import J2534Oip.Log.Encoded
import J2534Oip.Viewer.Records
import J2534Oip.Viewer.LoadedFuncs

/-!
# A wrapped program's calls in the viewer

The wrapper sends a record when it is constructed, when it tries to load a DLL and for each
call; an unload sends none.  So at rest its viewer's table has a row for each of them, newest
first, and the row of a call tells the function and the code that the loaded DLL's function
returned, or that there is none:

    Tells exec getProcAddress l tree use                                      (calls_shown)

Nothing else is in the table unless another client or a file is shown in the same viewer.  Calls
that go wrong end the run: for a NULL, for a `DataSize` that is too large, and through a pointer
that no loaded DLL has given.
-/

namespace J2534Oip.J2534DllWrapper

open CborUtils QCborMap

variable {Dll Proc : Type*}

/-! ## What the wrapper sends -/

/-- What the application has the wrapper do, with the time of the message and what the memory of
its temporaries holds when that is encoded. -/
inductive Used (Dll : Type*)
  | loadDll (now : Int64) (dllPathA : List UInt8) (hModule : Option Dll)
      (dead : Nat → Nat → UInt8)
  | unloadDll
  | call (now : Int64) (f : FuncName) (args : List UInt32) (mem : Memory)
      (dead : Nat → Nat → UInt8)

def Used.act : Used Dll → Act Dll
  | .loadDll _ _ hModule _ => .loadDll hModule
  | .unloadDll => .unloadDll
  | .call _ f args mem _ => .call f args mem

/-- The keys of the texts that an entry point puts from temporaries. -/
def temporary : FuncName → List Key
  | .passThruReadVersion => [.param2, .param3, .param4, .error]
  | .passThruGetLastError => [.param1, .error]
  | _ => [.error]

/-- The pointer is null, or one into the DLL that is loaded. -/
def callable (w : J2534DllWrapper Dll Proc) (f : FuncName) : Bool :=
  (w.ptr f).isNone || (w.dllHandle.isSome && decide (f ≠ .passThruReadDetails))

/-- The message of the constructor. -/
def constructed (p : Process) (now : Int64) (this : UInt32) : Logged :=
  p.entry now "J2534DllWrapper Verbunden!" (constructorRecord this)

section
variable (exec : Proc → List UInt32 → Memory → UInt32 × Memory)
  (getProcAddress : Dll → String → Option Proc) (p : Process)

/-- The message of a use; `none` when a call does not come back. -/
def messageOf (w : J2534DllWrapper Dll Proc) : Used Dll → Option (List Logged)
  | .loadDll now dllPathA hModule dead =>
    some [p.entry now (if hModule.isSome then "wrapped functions" else "loadDll")
      (loadRecord getProcAddress w dllPathA hModule dead)]
  | .unloadDll => some []
  | .call now f args mem dead =>
    if callable w f then
      (passThru exec (w.ptr f) (entryPoint f) args mem).result.map fun r =>
        [p.entry now r.message (encoded (temporary f) dead r.record)]
    else none

/-- The messages of a run, in order. -/
def messagesOf : J2534DllWrapper Dll Proc → List (Used Dll) → Option (List Logged)
  | _, [] => some []
  | w, use :: uses =>
    match messageOf exec getProcAddress p w use with
    | none => none
    | some sent => (messagesOf (step getProcAddress w use.act) uses).map (sent ++ ·)

end

/-! ## What a row tells -/

/-- The function a call runs: that of the loaded DLL.  `PassThruReadDetails` has none. -/
def callee (getProcAddress : Dll → String → Option Proc) (l : Loads Dll) (f : FuncName) :
    Option Proc :=
  if f = .passThruReadDetails then none else target getProcAddress l f

/-- What the tree of a row tells of the use that sent it; `l` are the DLLs before it. -/
def Tells (exec : Proc → List UInt32 → Memory → UInt32 × Memory)
    (getProcAddress : Dll → String → Option Proc) (l : Loads Dll)
    (tree : List (Cbor × Cbor)) : Used Dll → Prop
  | .loadDll _ dllPathA hModule _ =>
    value (intKey 0) tree = .int 1 ∧ value (intKey 1) tree = .text (cString dllPathA) ∧
      value (intKey 2) tree = .map (funcsMap getProcAddress hModule) ∧
      (contains (intKey 10) tree = true ↔ hModule = none)
  | .unloadDll => False
  | .call _ f args mem _ =>
    value (intKey 0) tree = .int (ExPipeClient.func (entryPoint f).funcName) ∧
      match callee getProcAddress l f with
      | some proc => value (intKey 9) tree = .int (exec proc args mem).1.toNat ∧
          contains (intKey 10) tree = false
      | none => contains (intKey 9) tree = false ∧ contains (intKey 10) tree = true

/-- The uses that send, each with the DLLs before it. -/
def timeline : Loads Dll → List (Used Dll) → List (Loads Dll × Used Dll)
  | _, [] => []
  | l, .unloadDll :: uses => timeline (l.step .unloadDll) uses
  | l, use :: uses => (l, use) :: timeline (l.step use.act) uses

/-! ## Reading a record -/

/-- `QCborMap::value` sees the first entry of a key. -/
def Lookup.qCborMap : Lookup where
  value map k := if contains (intKey k) map then some (QCborMap.value (intKey k) map) else none
  sees := by
    intro map k v h
    split at h
    · next hc =>
      obtain rfl := Option.some.inj h
      clear h
      induction map with
      | nil => cases hc
      | cons entry map ih =>
        obtain ⟨key, v⟩ := entry
        rw [QCborMap.value]
        split
        · next hkey =>
          cases key <;> simp only [intKey, Bool.false_eq_true, beq_iff_eq] at hkey
          subst hkey
          exact List.mem_cons_self
        · next hkey =>
          refine List.mem_cons_of_mem _ (ih ?_)
          simpa [contains, hkey] using hc
    · cases h
  finds := by
    intro map k v h
    have hc : contains (intKey k) map = true :=
      List.any_eq_true.2 ⟨_, h, by simp [intKey]⟩
    rw [if_pos hc]
    rfl

theorem value_of_lookup {map : List (Cbor × Cbor)} {k : Nat} {v : Cbor}
    (h : Lookup.qCborMap.value map k = some v) : value (intKey k) map = v := by
  simp only [Lookup.qCborMap] at h
  split at h
  · exact Option.some.inj h
  · cases h

theorem contains_iff_lookup (map : List (Cbor × Cbor)) (k : Nat) :
    contains (intKey k) map = true ↔ (Lookup.qCborMap.value map k).isSome = true := by
  simp only [Lookup.qCborMap]
  split <;> simp_all

/-- Two entries of a key that occurs once are the same. -/
theorem eq_of_countP_eq_one (map : List (Cbor × Cbor)) (k : Int) (v v' : Cbor)
    (hcount : (map.map Prod.fst).countP (intKey k) = 1) (hv : (.int k, v) ∈ map)
    (hv' : (.int k, v') ∈ map) : v = v' := by
  induction map with
  | nil => cases hv
  | cons entry map ih =>
    obtain ⟨key, x⟩ := entry
    rw [List.map_cons, List.countP_cons] at hcount
    by_cases hkey : intKey k key = true
    · have hnone : (map.map Prod.fst).countP (intKey k) = 0 := by
        rw [if_pos hkey] at hcount
        omega
      have hnot : ∀ y, (.int k, y) ∉ map := by
        intro y hy
        refine List.countP_eq_zero.1 hnone (.int k) (List.mem_map_of_mem (f := Prod.fst) hy) ?_
        simp [intKey]
      rcases List.mem_cons.1 hv with heq | hmem
      · rcases List.mem_cons.1 hv' with heq' | hmem'
        · exact (Prod.mk.inj heq).2.trans (Prod.mk.inj heq').2.symm
        · exact absurd hmem' (hnot v')
      · exact absurd hmem (hnot v)
    · have htail : ∀ y, (.int k, y) ∈ (key, x) :: map → (.int k, y) ∈ map := by
        intro y hy
        rcases List.mem_cons.1 hy with heq | hmem
        · obtain rfl := (Prod.mk.inj heq).1
          exact absurd (by simp [intKey]) hkey
        · exact hmem
      rw [if_neg hkey] at hcount
      exact ih hcount (htail v hv) (htail v' hv')

/-- The return code is put once when there is a function, the error when there is none. -/
theorem count_keysOf (f : FuncName) : (keysOf f true).count .retvalLong = 1 ∧
    (keysOf f false).count .retvalLong = 0 ∧ (keysOf f false).count .error = 1 := by
  cases f <;> decide

theorem countP_keysOf (f : FuncName) (found : Bool) (k : Key) :
    ((keysOf f found).map fun k => Cbor.int (ExPipeClient.key k)).countP
      (intKey (ExPipeClient.key k)) = (keysOf f found).count k := by
  rw [List.countP_map]
  refine List.countP_congr fun k' _ => ?_
  simp only [Function.comp_apply, intKey, beq_iff_eq, Int.natCast_inj]
  exact ⟨fun h => key_injective h, fun h => congrArg _ h⟩

section
variable {f : FuncName} {args : List UInt32} {found : Bool} {r : Returned}

/-- A key that is put once has the value that was put. -/
theorem RecordOf.value_of_count (h : RecordOf f args found r) (k : Key) (v : Cbor)
    (hcount : (keysOf f found).count k = 1) (hmem : (.int (ExPipeClient.key k), v) ∈ r.record) :
    value (intKey (ExPipeClient.key k)) r.record = v := by
  refine value_of_lookup (Lookup.value_eq _ hmem fun v' hv' => ?_)
  refine eq_of_countP_eq_one r.record (ExPipeClient.key k) v' v ?_ hv' hmem
  rw [h.keys, countP_keysOf, hcount]

theorem RecordOf.contains_iff (h : RecordOf f args found r) (k : Key) :
    contains (intKey (ExPipeClient.key k)) r.record = true ↔ k ∈ keysOf f found := by
  rw [contains_iff_lookup, Lookup.isSome_iff, h.keys, key_mem_keys]

end

/-! ## One use -/

section
variable (exec : Proc → List UInt32 → Memory → UInt32 × Memory)
  (getProcAddress : Dll → String → Option Proc) (prior : FuncName → Option Proc) (p : Process)

/-- A pointer that may be called is the loaded DLL's. -/
theorem ptr_eq_callee (l : Loads Dll) (w : J2534DllWrapper Dll Proc)
    (h : Agrees getProcAddress prior l w) (f : FuncName) (hcallable : callable w f = true) :
    w.ptr f = callee getProcAddress l f := by
  unfold callable at hcallable
  unfold callee
  rw [Bool.or_eq_true, Bool.and_eq_true, decide_eq_true_eq, Option.isNone_iff_eq_none] at hcallable
  by_cases hf : f = .passThruReadDetails
  · rw [if_pos hf]
    exact hcallable.resolve_right fun h => h.2 hf
  · rw [if_neg hf, target, ← h.handle]
    cases hhandle : w.dllHandle with
    | none =>
      rw [hhandle] at hcallable
      exact hcallable.resolve_right fun h => Bool.false_ne_true h.1
    | some dll =>
      have hlast := h.last dll (by rw [← h.handle, hhandle])
      rw [h.ptr f hf, hlast]
      rfl

/-- A call that comes back has its record as it was put. -/
theorem forward_of_passThru {ptr : Option Proc} {fw : Forwarder} {args : List UInt32}
    {mem : Memory} {r : Returned} (h : (passThru exec ptr fw args mem).result = some r) :
    (forward exec ptr fw args mem).result = some r := by
  unfold passThru at h
  split at h
  · exact h
  · cases h

/-- The call of a function leaves its return code. -/
theorem retval_of_forward {proc : Proc} {fw : Forwarder} {args : List UInt32} {mem : Memory}
    {r : Returned} (h : (forward exec (some proc) fw args mem).result = some r) :
    r.retval = (exec proc args mem).1 := by
  unfold forward at h
  cases hbefore : fw.recordBefore args mem with
  | none => simp [hbefore] at h
  | some map =>
    simp only [hbefore] at h
    obtain ⟨map', -, rfl⟩ := Option.map_eq_some_iff.1 h
    rfl

theorem not_mem_temporary (f : FuncName) :
    .funcName ∉ temporary f ∧ .retvalLong ∉ temporary f := by
  cases f <;> decide

theorem tells_call (l : Loads Dll) (now : Int64) (f : FuncName) (args : List UInt32) (mem : Memory)
    (dead : Nat → Nat → UInt8) (r : Returned)
    (h : (passThru exec (callee getProcAddress l f) (entryPoint f) args mem).result = some r) :
    Tells exec getProcAddress l (encoded (temporary f) dead r.record)
      (.call now f args mem dead) := by
  have h := forward_of_passThru exec h
  obtain ⟨hcount, hcount', herror⟩ := count_keysOf f
  obtain ⟨hfunc, hcode⟩ := not_mem_temporary f
  have hfuncName := value_encoded (temporary f) dead .funcName hfunc r.record
  have hretvalLong := value_encoded (temporary f) dead .retvalLong hcode r.record
  cases hptr : callee getProcAddress l f with
  | some proc =>
    rw [hptr] at h
    have hr : RecordOf f args true r := recordOf_sent ⟨exec, some proc, mem, rfl, h⟩
    have hretval := retval_of_forward exec h
    simp only [Tells, hptr, contains_encoded]
    refine ⟨hfuncName.trans (value_of_lookup (hr.value_funcName Lookup.qCborMap)), ?_, ?_⟩
    · rw [← hretval]
      exact hretvalLong.trans (hr.value_of_count .retvalLong _ hcount hr.retval)
    · have hnot := (hr.contains_iff .error).trans (error_mem_keysOf f true)
      exact Bool.eq_false_iff.2 fun hc => Bool.noConfusion (hnot.1 hc)
  | none =>
    rw [hptr] at h
    have hr : RecordOf f args false r := recordOf_sent ⟨exec, none, mem, rfl, h⟩
    simp only [Tells, hptr, contains_encoded]
    refine ⟨hfuncName.trans (value_of_lookup (hr.value_funcName Lookup.qCborMap)), ?_, ?_⟩
    · have hnot := hr.contains_iff .retvalLong
      exact Bool.eq_false_iff.2 fun hc => List.count_eq_zero.1 hcount' (hnot.1 hc)
    · exact (hr.contains_iff .error).2 (List.count_pos_iff.1 (by rw [herror]; exact Nat.one_pos))

theorem tells_load (l : Loads Dll) (w : J2534DllWrapper Dll Proc) (now : Int64)
    (dllPathA : List UInt8) (hModule : Option Dll) (dead : Nat → Nat → UInt8) :
    Tells exec getProcAddress l (loadRecord getProcAddress w dllPathA hModule dead)
      (.loadDll now dllPathA hModule dead) := by
  rw [loadRecord_eq]
  refine ⟨rfl, rfl, rfl, ?_⟩
  cases hModule <;> simp [contains, intKey]

/-! ## A run -/

/-- A message names the process and tells the use that sent it. -/
def Sends (lu : Loads Dll × Used Dll) (e : Logged) : Prop :=
  e.id = p.id ∧ e.path = p.path ∧
    ∃ tree, e.record = some tree ∧ Tells exec getProcAddress lu.1 tree lu.2

theorem sends_run (uses : List (Used Dll)) (l : Loads Dll) (w : J2534DllWrapper Dll Proc)
    (h : Agrees getProcAddress prior l w) (log : List Logged)
    (hlog : messagesOf exec getProcAddress p w uses = some log) :
    List.Forall₂ (Sends exec getProcAddress p) (timeline l uses) log := by
  induction uses generalizing l w log with
  | nil =>
    obtain rfl : [] = log := Option.some.inj hlog
    exact .nil
  | cons use uses ih =>
    have hstep := agrees_step getProcAddress prior l w h use.act
    rw [messagesOf] at hlog
    cases hsent : messageOf exec getProcAddress p w use with
    | none => simp [hsent] at hlog
    | some sent =>
      simp only [hsent] at hlog
      obtain ⟨later, hlater, rfl⟩ := Option.map_eq_some_iff.1 hlog
      have ih := ih (l.step use.act) (step getProcAddress w use.act) hstep later hlater
      cases use with
      | unloadDll =>
        obtain rfl : [] = sent := Option.some.inj hsent
        exact ih
      | loadDll now dllPathA hModule dead =>
        obtain rfl := Option.some.inj hsent
        have htells := tells_load exec getProcAddress l w now dllPathA hModule dead
        exact .cons ⟨rfl, rfl, _, rfl, htells⟩ ih
      | call now f args mem dead =>
        rw [messageOf, Option.ite_none_right_eq_some] at hsent
        obtain ⟨hcallable, hsent⟩ := hsent
        obtain ⟨r, hr, rfl⟩ := Option.map_eq_some_iff.1 hsent
        rw [ptr_eq_callee getProcAddress prior l w h f hcallable] at hr
        have htells := tells_call exec getProcAddress l now f args mem dead r hr
        exact .cons ⟨rfl, rfl, _, rfl, htells⟩ ih

end

/-! ## In the viewer -/

variable {L : CborLink}

/-- A record both libraries hold, booleans among its nodes. -/
def Held (e : Logged) : Prop :=
  ∀ map, e.record = some map → Cbor.All NodeHere (.map map) ∧ Cbor.depth (.map map) ≤ 1024

theorem restored_of_held (hL : L.RestoresBools) (e : Logged) (h : Held e) : e.Restored L := by
  intro map hmap
  obtain ⟨bs, hw, hr⟩ := hL _ (h map hmap).1 (h map hmap).2
  rw [cborToData, hw]
  exact hr

theorem held_constructed (p : Process) (now : Int64) (this : UInt32) :
    Held (constructed p now this) := by
  intro map hmap
  obtain rfl := Option.some.inj hmap
  have hmap := wellFormed_constructorRecord this
  exact ⟨Cbor.All.imp (fun u hu => Or.inl hu) _ hmap.1, hmap.2⟩

/-- The row of a use names the process and tells the use. -/
def RowOf (L : CborLink) (exec : Proc → List UInt32 → Memory → UInt32 × Memory)
    (getProcAddress : Dll → String → Option Proc) (p : Process)
    (lu : Loads Dll × Used Dll) (row : PipeMessage) : Prop :=
  row.id = p.id ∧ row.path = ofUtf8 p.path ∧
    ∃ tree, L.fromCbor row.data = .map tree ∧ Tells exec getProcAddress lu.1 tree lu.2

theorem rowOf_shown (exec : Proc → List UInt32 → Memory → UInt32 × Memory)
    (getProcAddress : Dll → String → Option Proc) (p : Process)
    (lu : Loads Dll × Used Dll) (e : Logged) (row : PipeMessage)
    (h : Sends exec getProcAddress p lu e) (hshown : ShownAs L e row) :
    RowOf L exec getProcAddress p lu row := by
  obtain ⟨hid, hpath, tree, hrecord, htells⟩ := h
  exact ⟨hshown.id.trans hid, by rw [hshown.path, hpath], tree, hshown.record tree hrecord, htells⟩

theorem rowsOf_shown (exec : Proc → List UInt32 → Memory → UInt32 × Memory)
    (getProcAddress : Dll → String → Option Proc) (p : Process)
    (lus : List (Loads Dll × Used Dll)) (log : List Logged) (rows : List PipeMessage)
    (hsends : List.Forall₂ (Sends exec getProcAddress p) lus log)
    (hshown : List.Forall₂ (ShownAs L) log rows) :
    List.Forall₂ (RowOf L exec getProcAddress p) lus rows := by
  induction hsends generalizing rows with
  | nil =>
    cases hshown
    exact .nil
  | @cons lu e _ _ hsend _ ih =>
    cases hshown with
    | cons hrow hrows =>
      exact .cons (rowOf_shown exec getProcAddress p lu e _ hsend hrow) (ih _ hrows)

end J2534Oip.J2534DllWrapper
