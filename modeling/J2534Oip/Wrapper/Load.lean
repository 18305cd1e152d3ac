import J2534Oip.Wrapper.EntryPoints
import Mathlib.Logic.Function.Basic

/-!
# `J2534DllWrapper`: loading and unloading

`loadDll` sets the handle and looks up 34 functions; `unloadDll` resets the handle.  No
other place sets a pointer: the constructor leaves them as the memory was, a failed load
and an unload leave them as they are, and `m_PassThruReadDetails` is never looked up.

A call forwards to the DLL that is loaded, or to nothing when there is none, exactly when
the pointer happens to fit:

    Forwards … ↔ SafeBefore args mem ∧ PointerFits …                      (forwards_iff)
-/

namespace J2534Oip

/-- The handle and the function pointers; `none` is a null pointer. -/
structure J2534DllWrapper (Dll Proc : Type*) where
  dllHandle : Option Dll
  ptr : FuncName → Option Proc

namespace J2534DllWrapper

section
variable {Dll Proc : Type*}

/-- A new object: no handle, the pointers as the memory was. -/
def construct (prior : FuncName → Option Proc) : J2534DllWrapper Dll Proc :=
  { dllHandle := none, ptr := prior }

/-- The functions `loadDll` looks up, in order. -/
def lookedUp : List FuncName :=
  [.passThruOpen, .passThruClose, .passThruConnect, .passThruDisconnect, .passThruReadMsgs,
    .passThruWriteMsgs, .passThruStartPeriodicMsg, .passThruStopPeriodicMsg,
    .passThruStartMsgFilter, .passThruStopMsgFilter, .passThruSetProgrammingVoltage,
    .passThruReadVersion, .passThruGetLastError, .passThruIoctl, .passThruLoadFirmware,
    .passThruRecoverFirmware, .passThruReadIPSetup, .passThruWriteIPSetup, .passThruReadPCSetup,
    .passThruGetPointer, .passThruGetNextCarDAQ, .passThruExConfigureWiFi,
    .passThruExDeviceWatchdog, .passThruExDownloadCypheredFlashData, .passThruExEraseFlash,
    .passThruExInitiateCypheredFlashDownload, .passThruExReadFlash, .passThruExResetFlash,
    .passThruExRunSelfTest, .passThruExWriteFlash, .passThruQueueMsgs, .passThruScanForDevices,
    .passThruGetNextDevice, .passThruSelect]

theorem mem_lookedUp (f : FuncName) : f ∈ lookedUp ↔ f ≠ .passThruReadDetails := by
  cases f <;> decide

variable (getProcAddress : Dll → String → Option Proc)

/-- `loadFunction`: `GetProcAddress` of the handle. -/
def loadFunction (w : J2534DllWrapper Dll Proc) (f : FuncName) : Option Proc :=
  w.dllHandle.bind fun h => getProcAddress h f.name

/-- `m_… = p` -/
def setPtr (w : J2534DllWrapper Dll Proc) (f : FuncName) (p : Option Proc) :
    J2534DllWrapper Dll Proc :=
  { w with ptr := Function.update w.ptr f p }

/-- `loadDll`; `hModule` is what `LoadLibraryW` returned. -/
def loadDll (w : J2534DllWrapper Dll Proc) : Option Dll → J2534DllWrapper Dll Proc
  | some hModule =>
    lookedUp.foldl (fun w f => w.setPtr f (loadFunction getProcAddress w f))
      { w with dllHandle := some hModule }
  | none => w

def unloadDll (w : J2534DllWrapper Dll Proc) : J2534DllWrapper Dll Proc :=
  { w with dllHandle := none }

/-! ## Runs -/

inductive Act (Dll : Type*)
  | loadDll (hModule : Option Dll)
  | unloadDll
  | call (f : FuncName) (args : List UInt32) (mem : Memory)

def step (w : J2534DllWrapper Dll Proc) : Act Dll → J2534DllWrapper Dll Proc
  | .loadDll hModule => w.loadDll getProcAddress hModule
  | .unloadDll => w.unloadDll
  | .call _ _ _ => w

/-- A run from construction. -/
def run (prior : FuncName → Option Proc) (acts : List (Act Dll)) : J2534DllWrapper Dll Proc :=
  acts.foldl (step getProcAddress) (construct prior)

/-- The DLL of the most recent successful load, and whether it is still loaded. -/
structure Loads (Dll : Type*) where
  last : Option Dll
  loaded : Option Dll

/-- What an act does to the DLLs. -/
def Loads.step (l : Loads Dll) : Act Dll → Loads Dll
  | .loadDll (some hModule) => { last := some hModule, loaded := some hModule }
  | .loadDll none => l
  | .unloadDll => { l with loaded := none }
  | .call _ _ _ => l

def loads (acts : List (Act Dll)) : Loads Dll := acts.foldl Loads.step ⟨none, none⟩

/-- The function a call should reach: that of the DLL that is loaded, if it exports it. -/
def target (l : Loads Dll) (f : FuncName) : Option Proc :=
  l.loaded.bind fun h => getProcAddress h f.name

/-! ## The pointers along a run -/

theorem foldl_loadFunction (h : Dll) (fs : List FuncName) (w : J2534DllWrapper Dll Proc)
    (hw : w.dllHandle = some h) :
    let w' := fs.foldl (fun w f => w.setPtr f (loadFunction getProcAddress w f)) w
    w'.dllHandle = some h ∧
      ∀ f, w'.ptr f = if f ∈ fs then getProcAddress h f.name else w.ptr f := by
  induction fs generalizing w with
  | nil => exact ⟨hw, fun f => by simp⟩
  | cons g fs ih =>
    obtain ⟨hhandle, hptr⟩ := ih (w.setPtr g (loadFunction getProcAddress w g)) hw
    refine ⟨hhandle, ?_⟩
    intro f
    rw [List.foldl_cons, hptr f]
    have hload : loadFunction getProcAddress w g = getProcAddress h g.name := by
      rw [loadFunction, hw]
      rfl
    by_cases hfs : f ∈ fs
    · rw [if_pos hfs, if_pos (List.mem_cons_of_mem g hfs)]
    · by_cases hfg : f = g
      · subst hfg
        rw [if_neg hfs, if_pos List.mem_cons_self, hload]
        exact Function.update_self f _ w.ptr
      · rw [if_neg hfs, if_neg (by simp [hfg, hfs])]
        exact Function.update_of_ne hfg _ w.ptr

/-- The handle is the DLL that is loaded; a pointer is from the last successful load, or
from before the construction when there was none or the function is never looked up. -/
structure Agrees (prior : FuncName → Option Proc) (l : Loads Dll) (w : J2534DllWrapper Dll Proc) :
    Prop where
  handle : w.dllHandle = l.loaded
  last : ∀ h, l.loaded = some h → l.last = some h
  ptr : ∀ f, f ≠ .passThruReadDetails →
    w.ptr f = (match l.last with | some h => getProcAddress h f.name | none => prior f)
  readDetails : w.ptr .passThruReadDetails = prior .passThruReadDetails

theorem agrees_step (prior : FuncName → Option Proc) (l : Loads Dll) (w : J2534DllWrapper Dll Proc)
    (h : Agrees getProcAddress prior l w) (act : Act Dll) :
    Agrees getProcAddress prior (l.step act) (step getProcAddress w act) := by
  cases act with
  | call f args mem => exact h
  | unloadDll => exact ⟨rfl, (fun _ hnone => by cases hnone), h.ptr, h.readDetails⟩
  | loadDll hModule =>
    cases hModule with
    | none => exact h
    | some dll =>
      obtain ⟨hhandle, hptr⟩ := foldl_loadFunction getProcAddress dll lookedUp
        { w with dllHandle := some dll } rfl
      refine ⟨hhandle, fun _ hsome => hsome, ?_, ?_⟩
      · intro f hf
        exact (hptr f).trans (if_pos ((mem_lookedUp f).2 hf))
      · have hnot : FuncName.passThruReadDetails ∉ lookedUp := by decide
        exact (hptr _).trans ((if_neg hnot).trans h.readDetails)

/-- **Pointers and handle along a run**, from construction. -/
theorem agrees_run (prior : FuncName → Option Proc) (acts : List (Act Dll)) :
    Agrees getProcAddress prior (loads acts) (run getProcAddress prior acts) := by
  have key : ∀ (acts : List (Act Dll)) (l : Loads Dll) (w : J2534DllWrapper Dll Proc),
      Agrees getProcAddress prior l w →
        Agrees getProcAddress prior (acts.foldl Loads.step l) (acts.foldl (step getProcAddress) w) := by
    intro acts
    induction acts with
    | nil => intro l w h; exact h
    | cons act acts ih => intro l w h; exact ih _ _ (agrees_step getProcAddress prior l w h act)
  exact key acts _ _ ⟨rfl, (fun _ hnone => by cases hnone), fun _ _ => rfl, rfl⟩

/-! ## Where a call goes -/

/-- A call reaches `p` and nothing else; with no `p` it calls nothing and returns
`ERR_NOT_SUPPORTED`. -/
def Forwards (o : Outcome Proc) (args : List UInt32) (mem : Memory) : Option Proc → Prop
  | some p => o.calls = [(p, args, mem)]
  | none => o.calls = [] ∧ ∃ r, o.result = some r ∧ r.retval = errNotSupported

/-- The pointer of `f` is what it should be.  For a function that is looked up, a DLL is
loaded, or the pointer is null although none is: the last one did not export it, or there
was none and the memory held null. -/
def PointerFits (prior : FuncName → Option Proc) (l : Loads Dll) (f : FuncName) : Prop :=
  if f = .passThruReadDetails then prior f = target getProcAddress l f
  else l.loaded.isSome = true ∨
    (match l.last with | some h => getProcAddress h f.name | none => prior f) = none

theorem ptr_eq_target_iff (prior : FuncName → Option Proc) (l : Loads Dll)
    (w : J2534DllWrapper Dll Proc) (h : Agrees getProcAddress prior l w) (f : FuncName) :
    w.ptr f = target getProcAddress l f ↔ PointerFits getProcAddress prior l f := by
  unfold PointerFits
  split
  · next hf =>
    subst hf
    rw [h.readDetails]
  · next hf =>
    rw [h.ptr f hf]
    cases hl : l.loaded with
    | some dll =>
      rw [h.last dll hl]
      simp [target, hl]
    | none => simp [target, hl]

/-- The pointer decides where a call goes, unless the record cannot be built. -/
theorem forwards_iff_ptr (exec : Proc → List UInt32 → Memory → UInt32 × Memory)
    (ptr tgt : Option Proc) (f : FuncName) (args : List UInt32) (mem : Memory) :
    Forwards (forward exec ptr (entryPoint f) args mem) args mem tgt ↔
      (entryPoint f).SafeBefore args mem ∧ ptr = tgt := by
  by_cases hsafe : (entryPoint f).SafeBefore args mem
  · cases ptr with
    | none =>
      obtain ⟨hcalls, -, hresult⟩ := forward_missing exec (entryPoint f) args mem hsafe
        (safe_missing f _)
      cases tgt with
      | none => exact iff_of_true ⟨hcalls, hresult⟩ ⟨hsafe, rfl⟩
      | some q => simp [Forwards, hcalls]
    | some p =>
      obtain ⟨hcalls, -, -⟩ := forward_found exec (entryPoint f) args mem p hsafe
      cases tgt with
      | none => simp [Forwards, hcalls]
      | some q => simp [Forwards, hcalls, hsafe]
  · rw [forward_of_not_safe exec (entryPoint f) args mem ptr hsafe]
    cases tgt <;> simp [Forwards, hsafe]

/-- **Where a call goes.**  After any run, a call goes to the function of the DLL that is
loaded, or nowhere when there is none, iff no NULL is dereferenced for its record and its
pointer fits. -/
theorem forwards_iff (exec : Proc → List UInt32 → Memory → UInt32 × Memory)
    (prior : FuncName → Option Proc) (acts : List (Act Dll)) (f : FuncName) (args : List UInt32)
    (mem : Memory) :
    Forwards (forward exec ((run getProcAddress prior acts).ptr f) (entryPoint f) args mem) args mem
        (target getProcAddress (loads acts) f) ↔
      (entryPoint f).SafeBefore args mem ∧ PointerFits getProcAddress prior (loads acts) f := by
  rw [forwards_iff_ptr]
  exact and_congr_right fun _ =>
    ptr_eq_target_iff getProcAddress prior _ _ (agrees_run getProcAddress prior acts) f

end

/-- After loading and unloading a DLL, `PassThruClose` still calls into it. -/
theorem forwards_unloaded :
    ¬ ∀ (acts : List (Act Unit)) (f : FuncName) (args : List UInt32) (mem : Memory),
      Forwards (forward (fun _ _ mem => (0, mem))
          ((run (fun _ name => some name) (fun _ => none) acts).ptr f) (entryPoint f) args mem)
        args mem (target (fun _ name => some name) (loads acts) f) := by
  intro h
  have hclose := h [.loadDll (some ()), .unloadDll] .passThruClose [1] fun _ => 0
  rw [forwards_iff] at hclose
  exact absurd hclose.2 (by simp [PointerFits, loads, Loads.step])

end J2534DllWrapper

end J2534Oip
