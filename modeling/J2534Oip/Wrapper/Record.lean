import Mathlib.Data.List.Nodup
import J2534Oip.Wrapper.EntryPoints

/-!
# `J2534DllWrapper`: does a record identify its call?

A record should have each key once, tell its entry point by `KEY_FuncName`, and tell the
scalar arguments and the return code by its other keys.  `cn_cbor_map_put` appends, so an
entry point that puts a key twice makes the record ambiguous for whoever reads it.

    Identified lk f args r ↔ f ∉ ambiguous ∧ (found = true → f ∉ repeated)
                                                                       (identified_iff)
-/

namespace J2534Oip.J2534DllWrapper

open CborUtils

/-! ## Reading a record -/

/-- A reader of maps whose keys may repeat: it sees one of the entries of a key. -/
structure Lookup where
  value : List (Cbor × Cbor) → Nat → Option Cbor
  sees : ∀ map k v, value map k = some v → (.int k, v) ∈ map
  finds : ∀ map k v, (.int k, v) ∈ map → (value map k).isSome = true

/-- The reader that takes the first entry of a key. -/
def firstValue : List (Cbor × Cbor) → Nat → Option Cbor
  | [], _ => none
  | (.int n, v) :: map, k => if n = k then some v else firstValue map k
  | _ :: map, k => firstValue map k

def Lookup.first : Lookup where
  value := firstValue
  sees := by
    intro map k v h
    fun_induction firstValue map k with
    | case1 => cases h
    | case2 k v' map =>
      obtain rfl := Option.some.inj h
      exact List.mem_cons_self
    | case3 k n v' map hne ih => exact List.mem_cons_of_mem _ (ih h)
    | case4 k entry map hint ih => exact List.mem_cons_of_mem _ (ih h)
  finds := by
    intro map k v h
    fun_induction firstValue map k with
    | case1 => cases h
    | case2 k v' map => rfl
    | case3 k n v' map hne ih =>
      rcases List.mem_cons.1 h with heq | hmem
      · exact absurd (Cbor.int.inj (Prod.mk.inj heq).1).symm hne
      · exact ih hmem
    | case4 k entry map hint ih =>
      rcases List.mem_cons.1 h with heq | hmem
      · exact absurd heq.symm (hint _ _)
      · exact ih hmem

/-- `r` is what a call of `f` returned and sent; `found` tells whether there was a function
to call. -/
def Sent (Proc : Type*) (f : FuncName) (args : List UInt32) (found : Bool) (r : Returned) : Prop :=
  ∃ (exec : Proc → List UInt32 → Memory → UInt32 × Memory) (ptr : Option Proc) (mem : Memory),
    ptr.isSome = found ∧ (forward exec ptr (entryPoint f) args mem).result = some r

/-- The record `r` of a call of `f` with `args` identifies it: no key twice, no other entry
point with its `KEY_FuncName`, and no call of `f` with other scalar arguments or another
return code that reads the same. -/
structure Identified (Proc : Type*) (lk : Lookup) (f : FuncName) (args : List UInt32)
    (r : Returned) : Prop where
  keys : (r.record.map Prod.fst).Nodup
  function : ∀ f' args' found' r', Sent Proc f' args' found' r' → f' ≠ f →
    lk.value r'.record (ExPipeClient.key .funcName) ≠ lk.value r.record (ExPipeClient.key .funcName)
  values : ∀ args' found' r', Sent Proc f args' found' r' →
    (∀ k, lk.value r'.record k = lk.value r.record k) →
      (∀ i ∈ (entryPoint f).scalars, args'.getD i 0 = args.getD i 0) ∧ r'.retval = r.retval

/-! ## The keys of a record -/

/-- The puts of an entry point. -/
def putsOf (f : FuncName) (found : Bool) : List (Key × Val) :=
  (entryPoint f).before ++ if found then (entryPoint f).after else (entryPoint f).missing

def keysOf (f : FuncName) (found : Bool) : List Key :=
  .funcName :: (putsOf f found).map Prod.fst ++ if found then [] else [.error]

theorem key_injective : Function.Injective ExPipeClient.key := by
  intro k k' h
  cases k <;> cases k' <;> first | rfl | (revert h; decide)

/-- What is known of a record: its keys, its function, its numbers. -/
structure RecordOf (f : FuncName) (args : List UInt32) (found : Bool) (r : Returned) : Prop where
  keys : r.record.map Prod.fst = (keysOf f found).map fun k => .int (ExPipeClient.key k)
  head : ∃ entries, r.record = (.int (ExPipeClient.key .funcName),
    .int (ExPipeClient.func (entryPoint f).funcName)) :: entries
  args : ∀ key i, (key, .int (.arg i)) ∈ (entryPoint f).before →
    (.int (ExPipeClient.key key), .int (args.getD i 0).toNat) ∈ r.record
  retval : if found then (.int (ExPipeClient.key .retvalLong), .int r.retval.toNat) ∈ r.record
    else r.retval = errNotSupported

/-- Every function that is called has its code put. -/
theorem retval_mem_after (f : FuncName) : (.retvalLong, .int .retval) ∈ (entryPoint f).after := by
  cases f <;> decide

theorem func_lt (f : FuncName) : ExPipeClient.func f < 2 ^ 32 := by
  cases f <;> decide

/-- A record that was built is its function, what was put before, and the rest. -/
theorem record_split (c : Frame) (puts : List (Key × Val)) (map map' : List (Cbor × Cbor))
    (h : putAll c puts map = some map') : ∃ entries, map' = map ++ entries ∧
      entries.map Prod.fst = puts.map (fun put => .int (ExPipeClient.key put.1)) ∧
      ∀ key iv, (key, .int iv) ∈ puts → ∃ n, iv.eval c = some n ∧
        (.int (ExPipeClient.key key), .int n.toNat) ∈ entries := by
  have hsafe : ∀ put ∈ puts, put.2.Safe c := by
    apply Classical.byContradiction
    intro hunsafe
    rw [putAll_of_not_safe c puts map hunsafe] at h
    cases h
  obtain ⟨entries, hall, hkeys, hints⟩ := putAll_of_safe c puts map hsafe
  rw [hall] at h
  exact ⟨entries, (Option.some.inj h).symm, hkeys, hints⟩

/-- What is recorded before the call: the function, then the puts, the arguments among them. -/
theorem recordBefore_split {f : FuncName} {args : List UInt32} {mem : Memory}
    {map : List (Cbor × Cbor)} (h : (entryPoint f).recordBefore args mem = some map) :
    ∃ before, map = (.int (ExPipeClient.key .funcName),
        .int (ExPipeClient.func (entryPoint f).funcName)) :: before ∧
      before.map Prod.fst = (entryPoint f).before.map (fun put => .int (ExPipeClient.key put.1)) ∧
      ∀ key i, (key, .int (.arg i)) ∈ (entryPoint f).before →
        (.int (ExPipeClient.key key), .int (args.getD i 0).toNat) ∈ before := by
  obtain ⟨before, hmap, hkeys, hints⟩ := record_split _ _ _ _ h
  have hfunc : (UInt32.ofNat (ExPipeClient.func (entryPoint f).funcName)).toNat =
      ExPipeClient.func (entryPoint f).funcName :=
    UInt32.toNat_ofNat_of_lt (func_lt _)
  refine ⟨before, ?_, hkeys, ?_⟩
  · rw [hmap, mapPutInt, hfunc]
    rfl
  · intro key i hmem
    obtain ⟨n, hn, hentry⟩ := hints key (.arg i) hmem
    obtain rfl : args.getD i 0 = n := Option.some.inj hn
    exact hentry

theorem recordOf_sent {Proc : Type*} {f : FuncName} {args : List UInt32} {found : Bool}
    {r : Returned} (h : Sent Proc f args found r) : RecordOf f args found r := by
  obtain ⟨exec, ptr, mem, hptr, hresult⟩ := h
  unfold forward at hresult
  cases hbefore : (entryPoint f).recordBefore args mem with
  | none => simp [hbefore] at hresult
  | some map =>
    obtain ⟨before, hhead, hkeys, hargs⟩ := recordBefore_split hbefore
    simp only [hbefore] at hresult
    cases ptr with
    | some p =>
      subst hptr
      obtain ⟨map', hafter, rfl⟩ := Option.map_eq_some_iff.1 hresult
      obtain ⟨after, rfl, hkeys', hints'⟩ := record_split _ _ _ _ hafter
      refine ⟨?_, ?_, ?_, ?_⟩
      · simp [hhead, hkeys, hkeys', keysOf, putsOf, Function.comp_def]
      · exact ⟨before ++ after, by rw [hhead, List.cons_append]⟩
      · intro key i hmem
        rw [hhead]
        exact List.mem_cons_of_mem _ (List.mem_append_left _ (hargs key i hmem))
      · obtain ⟨n, hn, hentry⟩ := hints' _ _ (retval_mem_after f)
        obtain rfl : (exec p args mem).1 = n := Option.some.inj hn
        exact List.mem_append_right _ hentry
    | none =>
      subst hptr
      obtain ⟨map', hmissing, rfl⟩ := Option.map_eq_some_iff.1 hresult
      obtain ⟨missing, rfl, hkeys', -⟩ := record_split _ _ _ _ hmissing
      refine ⟨?_, ?_, ?_, rfl⟩
      · simp [hhead, hkeys, hkeys', keysOf, putsOf, mapPutString, Function.comp_def]
      · exact ⟨before ++ missing ++ _, by rw [hhead, mapPutString]; rfl⟩
      · intro key i hmem
        rw [hhead]
        exact List.mem_cons_of_mem _
          (List.mem_append_left _ (List.mem_append_left _ (hargs key i hmem)))

/-! ## Which records identify their call -/

/-- `PassThruSetProgrammingVoltage` puts `KEY_Param2` twice; the others share their
`KEY_FuncName` in pairs. -/
def ambiguous : List FuncName :=
  [.passThruSetProgrammingVoltage, .passThruExDownloadCypheredFlashData, .passThruExEraseFlash,
    .passThruSelect, .passThruReadDetails]

/-- They put a key before the call and again after it. -/
def repeated : List FuncName :=
  [.passThruReadMsgs, .passThruReadVersion, .passThruGetLastError, .passThruReadIPSetup,
    .passThruReadPCSetup, .passThruGetPointer, .passThruGetNextCarDAQ, .passThruScanForDevices,
    .passThruGetNextDevice]

theorem keysOf_nodup (f : FuncName) (found : Bool) (hf : f ∉ ambiguous)
    (hrep : found = true → f ∉ repeated) : (keysOf f found).Nodup := by
  revert hf hrep
  cases f <;> cases found <;> decide

theorem not_keysOf_nodup_of_repeated (f : FuncName) (hf : f ∈ repeated) :
    ¬(keysOf f true).Nodup := by
  revert hf
  cases f <;> decide

theorem error_mem_keysOf (f : FuncName) (found : Bool) : .error ∈ keysOf f found ↔ found = false := by
  cases f <;> cases found <;> decide

/-- Every scalar argument is put before the call. -/
theorem scalar_mem_before (f : FuncName) : ∀ i ∈ (entryPoint f).scalars,
    ∃ put ∈ (entryPoint f).before, put.2 = .int (.arg i) := by
  cases f <;> decide

/-- Outside `ambiguous` an entry point puts its own function, and no other does. -/
theorem func_ne (f f' : FuncName) (hf : f ∉ ambiguous) (hne : f' ≠ f) :
    ExPipeClient.func (entryPoint f').funcName ≠ ExPipeClient.func (entryPoint f).funcName := by
  revert hf hne
  cases f <;> cases f' <;> decide

/-- The function comes first and not again. -/
theorem funcName_not_mem_tail (f : FuncName) (found : Bool) : .funcName ∉ (keysOf f found).tail := by
  cases f <;> cases found <;> decide

section
variable (lk : Lookup) {map : List (Cbor × Cbor)} {k : Nat} {v : Cbor}

theorem Lookup.isSome_iff : (lk.value map k).isSome = true ↔ .int k ∈ map.map Prod.fst := by
  constructor
  · intro h
    obtain ⟨v, hv⟩ := Option.isSome_iff_exists.1 h
    exact List.mem_map_of_mem (lk.sees map k v hv)
  · intro h
    obtain ⟨⟨k', v⟩, hmem, rfl⟩ := List.mem_map.1 h
    exact lk.finds map k v hmem

/-- An entry with the only value of its key is the one seen. -/
theorem Lookup.value_eq (hmem : (.int k, v) ∈ map) (honly : ∀ v', (.int k, v') ∈ map → v' = v) :
    lk.value map k = some v := by
  obtain ⟨v', hv'⟩ := Option.isSome_iff_exists.1 (lk.finds map k v hmem)
  rw [hv', honly v' (lk.sees map k v' hv')]

theorem Lookup.value_eq_of_nodup (h : (map.map Prod.fst).Nodup) (hmem : (.int k, v) ∈ map) :
    lk.value map k = some v := by
  refine lk.value_eq hmem fun v' hv' => ?_
  exact congrArg Prod.snd (List.inj_on_of_nodup_map h hv' hmem rfl)

end

section
variable {Proc : Type*} (lk : Lookup) {f : FuncName} {args : List UInt32} {found : Bool}
  {r : Returned}

theorem key_mem_keys {key : Key} {keys : List Key} :
    .int (ExPipeClient.key key) ∈ keys.map (fun k => Cbor.int (ExPipeClient.key k)) ↔ key ∈ keys := by
  refine List.mem_map_of_injective fun k k' hk => ?_
  exact key_injective (Int.ofNat.inj (Cbor.int.inj hk))

theorem RecordOf.nodup_iff (h : RecordOf f args found r) :
    (r.record.map Prod.fst).Nodup ↔ (keysOf f found).Nodup := by
  rw [h.keys]
  refine List.nodup_map_iff fun k k' hk => ?_
  exact key_injective (Int.ofNat.inj (Cbor.int.inj hk))

theorem RecordOf.isSome_error (h : RecordOf f args found r) :
    (lk.value r.record (ExPipeClient.key .error)).isSome = true ↔ found = false := by
  rw [lk.isSome_iff, h.keys, key_mem_keys, error_mem_keysOf]

theorem RecordOf.value_funcName (h : RecordOf f args found r) :
    lk.value r.record (ExPipeClient.key .funcName) =
      some (.int (ExPipeClient.func (entryPoint f).funcName)) := by
  obtain ⟨entries, hrecord⟩ := h.head
  have htail : entries.map Prod.fst =
      (keysOf f found).tail.map fun k => .int (ExPipeClient.key k) := by
    have hkeys := congrArg List.tail h.keys
    rwa [hrecord, List.map_cons, List.tail_cons, ← List.map_tail] at hkeys
  rw [hrecord]
  refine lk.value_eq List.mem_cons_self fun v' hv' => ?_
  rcases List.mem_cons.1 hv' with heq | hmem
  · exact (Prod.mk.inj heq).2
  · have hkey := List.mem_map_of_mem (f := Prod.fst) hmem
    rw [htail, key_mem_keys] at hkey
    exact absurd hkey (funcName_not_mem_tail f found)

theorem RecordOf.value_arg (h : RecordOf f args found r) (hnodup : (keysOf f found).Nodup) {key : Key}
    {i : Nat} (hmem : (key, .int (.arg i)) ∈ (entryPoint f).before) :
    lk.value r.record (ExPipeClient.key key) = some (.int (args.getD i 0).toNat) :=
  lk.value_eq_of_nodup (h.nodup_iff.2 hnodup) (h.args key i hmem)

/-- Records of one entry point that read the same have the same scalars and return code. -/
theorem values_of_lookups (hf : f ∉ ambiguous) (hrep : found = true → f ∉ repeated)
    (h : Sent Proc f args found r) {args' : List UInt32} {found' : Bool} {r' : Returned}
    (h' : Sent Proc f args' found' r') (hsame : ∀ k, lk.value r'.record k = lk.value r.record k) :
    (∀ i ∈ (entryPoint f).scalars, args'.getD i 0 = args.getD i 0) ∧ r'.retval = r.retval := by
  have hr := recordOf_sent h
  have hr' := recordOf_sent h'
  -- both were called, or neither
  have hfound : found' = found := by
    have herror := hr'.isSome_error lk
    rw [hsame, hr.isSome_error lk] at herror
    cases found <;> cases found' <;> simp_all
  subst hfound
  have hnodup := keysOf_nodup f found' hf hrep
  constructor
  · intro i hi
    obtain ⟨⟨key, val⟩, hmem, rfl⟩ := scalar_mem_before f i hi
    have heq := hsame (ExPipeClient.key key)
    rw [hr'.value_arg lk hnodup hmem, hr.value_arg lk hnodup hmem] at heq
    exact UInt32.toNat_inj.1 (Int.ofNat.inj (Cbor.int.inj (Option.some.inj heq)))
  · have hret := hr.retval
    have hret' := hr'.retval
    cases found' with
    | true =>
      have heq := hsame (ExPipeClient.key .retvalLong)
      rw [lk.value_eq_of_nodup (hr'.nodup_iff.2 hnodup) hret',
        lk.value_eq_of_nodup (hr.nodup_iff.2 hnodup) hret] at heq
      exact UInt32.toNat_inj.1 (Int.ofNat.inj (Cbor.int.inj (Option.some.inj heq)))
    | false =>
      have hcode : r.retval = errNotSupported := hret
      have hcode' : r'.retval = errNotSupported := hret'
      rw [hcode, hcode']

/-- A function that is not there can be called with any arguments its puts can read. -/
theorem sent_missing (f : FuncName) (args : List UInt32) (mem : Memory)
    (hsafe : (entryPoint f).SafeBefore args mem) : ∃ r, Sent Proc f args false r := by
  have hcall := forward_missing (fun (_ : Proc) _ mem => (0, mem)) (entryPoint f) args mem hsafe
    (safe_missing f _)
  obtain ⟨r, hr, -⟩ := hcall.2.2
  exact ⟨r, fun _ _ mem => (0, mem), none, mem, rfl, hr⟩

/-- The other function of a pair that shares its `KEY_FuncName`. -/
theorem not_identified_of_shared (f f' : FuncName) (hne : f' ≠ f)
    (hshared : (entryPoint f').funcName = (entryPoint f).funcName) (args' : List UInt32)
    (mem : Memory) (hsafe : (entryPoint f').SafeBefore args' mem) (h : Sent Proc f args found r) :
    ¬Identified Proc lk f args r := by
  intro hid
  have hsent : ∃ r', Sent Proc f' args' false r' := sent_missing f' args' mem hsafe
  obtain ⟨r', hr'⟩ := hsent
  apply hid.function f' args' false r' hr' hne
  rw [(recordOf_sent hr').value_funcName lk, (recordOf_sent h).value_funcName lk, hshared]

theorem not_identified_of_keys (hkeys : ¬(keysOf f found).Nodup) (h : Sent Proc f args found r) :
    ¬Identified Proc lk f args r := by
  intro hid
  exact hkeys ((recordOf_sent h).nodup_iff.1 hid.keys)

theorem not_identified_of_ambiguous (hf : f ∈ ambiguous) (h : Sent Proc f args found r) :
    ¬Identified Proc lk f args r := by
  simp only [ambiguous, List.mem_cons, List.not_mem_nil, or_false] at hf
  rcases hf with rfl | rfl | rfl | rfl | rfl
  · refine not_identified_of_keys lk ?_ h
    cases found <;> decide
  · exact not_identified_of_shared lk _ .passThruExEraseFlash (by decide) rfl [] (fun _ => 0)
      (by intro put hput; cases hput) h
  · exact not_identified_of_shared lk _ .passThruExDownloadCypheredFlashData (by decide) rfl []
      (fun _ => 0) (by intro put hput; cases hput) h
  · refine not_identified_of_shared lk _ .passThruReadDetails (by decide) rfl [1] (fun _ => 0) ?_ h
    intro put hput
    obtain rfl := List.mem_singleton.1 hput
    exact (Val.safe_int_deref _ 0).2 (by decide)
  · refine not_identified_of_shared lk _ .passThruSelect (by decide) rfl [] (fun _ => 0) ?_ h
    unfold Forwarder.SafeBefore
    simp [entryPoint, passThruSelect]

/-- **Which records identify their call.** -/
theorem identified_iff (h : Sent Proc f args found r) :
    Identified Proc lk f args r ↔ f ∉ ambiguous ∧ (found = true → f ∉ repeated) := by
  constructor
  · intro hid
    refine ⟨fun hf => not_identified_of_ambiguous lk hf h hid, ?_⟩
    rintro rfl hf
    exact not_identified_of_keys lk (not_keysOf_nodup_of_repeated f hf) h hid
  · rintro ⟨hf, hrep⟩
    refine ⟨(recordOf_sent h).nodup_iff.2 (keysOf_nodup f found hf hrep), ?_, ?_⟩
    · intro f' args' found' r' h' hne heq
      rw [(recordOf_sent h').value_funcName lk, (recordOf_sent h).value_funcName lk] at heq
      exact func_ne f f' hf hne (Int.ofNat.inj (Cbor.int.inj (Option.some.inj heq)))
    · intro args' found' r' h' hsame
      exact values_of_lookups lk hf hrep h h' hsame

end

/-- `PassThruClose(1)`, returning 0. -/
theorem identified_close :
    let r : Returned := ⟨0, "PassThruOpen", [(.int 0, .int 21), (.int 1, .int 1), (.int 9, .int 0)]⟩
    Identified Unit Lookup.first .passThruClose [1] r ↔
      .passThruClose ∉ ambiguous ∧ (true = true → .passThruClose ∉ repeated) := by
  intro r
  have h : Sent Unit .passThruClose [1] true r :=
    ⟨fun _ _ mem => (0, mem), some (), fun _ => 0, rfl, rfl⟩
  exact identified_iff Lookup.first h

/-- `PassThruSetProgrammingVoltage(1, 15, 5)` puts pin and voltage under one key. -/
theorem identified_setProgrammingVoltage :
    let r : Returned := ⟨0, "PassThruSetProgrammingVoltage", [(.int 0, .int 29), (.int 1, .int 1),
      (.int 2, .int 15), (.int 2, .int 5), (.int 9, .int 0)]⟩
    Sent Unit .passThruSetProgrammingVoltage [1, 15, 5] true r ∧
      ¬Identified Unit Lookup.first .passThruSetProgrammingVoltage [1, 15, 5] r := by
  intro r
  refine ⟨⟨fun _ _ mem => (0, mem), some (), fun _ => 0, rfl, rfl⟩, fun hid => ?_⟩
  have hkeys : ¬([0, 1, 2, 2, 9] : List Int).Nodup := by decide
  exact hkeys (List.Nodup.of_map Cbor.int hid.keys)

end J2534Oip.J2534DllWrapper
