import J2534Oip.Settings
import J2534Oip.Viewer.Records

/-!
# The interface of a process and the page of the viewer

`DllMain` looks up the selected interface in the registry, under the key of either version,
and makes one object of exactly that name; every exported call is served by it.  The viewer
looks under the key of 04.04 only, whatever the case of the name, and opens the page of the
messages it expects.  They are about the same interface

    startPage settings = (selected settings stack).viewer ↔ SamePage settings
                                                                     (startPage_iff)
-/

namespace J2534Oip

open Registry ExMessagePreProcessor

/-! ## The process -/

/-- The classes of interfaces. -/
inductive InterfaceClass
  | exJ2534SimpleLogger
  | j2534DllWrapper
  | j2534Emulator
  | j2534CannelloniClient
deriving DecidableEq

/-- The keys of `registerGenerator`. -/
def InterfaceClass.key : InterfaceClass → List UInt8
  | .exJ2534SimpleLogger => utf8 "ExJ2534SimpleLogger"
  | .j2534DllWrapper => utf8 "J2534DllWrapper"
  | .j2534Emulator => utf8 "J2534Emulator"
  | .j2534CannelloniClient => utf8 "J2534Cannelloni"

/-- The viewer of what an interface sends; the logger sends nothing. -/
def InterfaceClass.viewer : InterfaceClass → Option Viewer
  | .exJ2534SimpleLogger => none
  | .j2534DllWrapper => some .wrapper
  | .j2534Emulator => some .emulator
  | .j2534CannelloniClient => some .cannelloni

/-- `m_generators` -/
def generators : List InterfaceClass :=
  [.exJ2534SimpleLogger, .j2534DllWrapper, .j2534Emulator, .j2534CannelloniClient]

/-- `create` -/
def ExJ2534WrapperFactory.create (className : List UInt8) : Option InterfaceClass :=
  generators.find? fun c => c.key == className

/-- `getClassNameFromRegistry`; `stack` is what its `className` holds at first, and what is
behind it. -/
def getClassNameFromRegistry (settings : Settings) (stack : List UInt8) : List UInt8 :=
  match settings.openFirst [.v0404, .v0500] with
  | none => []
  | some values =>
    match (query values .exSelectedInterface maxPath).data with
    | none => []
    | some data => cString (data ++ stack.drop data.length)

/-- The objects a process made, and `_global_j2534_interface`. -/
structure J2534Global where
  objects : List InterfaceClass
  interface : Option Nat

namespace J2534Global

def new : J2534Global := { objects := [], interface := none }

/-- A new object becomes the interface. -/
def setInterface (g : J2534Global) (c : InterfaceClass) : J2534Global :=
  { objects := g.objects ++ [c], interface := some g.objects.length }

/-- `getInterface` makes a logger where there is nothing else. -/
def getInterface (g : J2534Global) : J2534Global × Nat :=
  match g.interface with
  | some object => (g, object)
  | none => (g.setInterface .exJ2534SimpleLogger, g.objects.length)

/-- `DllMain` at `DLL_PROCESS_ATTACH` -/
def processAttach (g : J2534Global) (settings : Settings) (stack : List UInt8) : J2534Global :=
  let className := getClassNameFromRegistry settings stack
  let g := if className ≠ [] then
      match ExJ2534WrapperFactory.create className with
      | some c => g.setInterface c
      | none => g
    else g
  -- the name of the interface is printed
  g.getInterface.1

end J2534Global

/-- `exports.def`; `PassThruQueueMsgs` is not in it. -/
def exportsDef : List FuncName :=
  [.passThruOpen, .passThruClose, .passThruSelect, .passThruConnect, .passThruDisconnect,
    .passThruGetLastError, .passThruIoctl, .passThruReadMsgs, .passThruReadVersion,
    .passThruSetProgrammingVoltage, .passThruStartMsgFilter, .passThruStartPeriodicMsg,
    .passThruStopMsgFilter, .passThruStopPeriodicMsg, .passThruScanForDevices,
    .passThruGetNextDevice, .passThruWriteMsgs, .passThruExConfigureWiFi,
    .passThruExDeviceWatchdog, .passThruExDownloadCypheredFlashData, .passThruExEraseFlash,
    .passThruExInitiateCypheredFlashDownload, .passThruExReadFlash, .passThruExResetFlash,
    .passThruExRunSelfTest, .passThruExWriteFlash, .passThruLoadFirmware,
    .passThruRecoverFirmware, .passThruReadIPSetup, .passThruWriteIPSetup, .passThruReadPCSetup,
    .passThruGetPointer, .passThruGetNextCarDAQ, .passThruReadDetails]

/-- What a process does after it was attached. -/
inductive ProcessAct
  | threadAttached
  | served (object : Nat) (f : FuncName)

inductive ProcessStep : J2534Global → ProcessAct → J2534Global → Prop
  | threadAttach (g : J2534Global) : ProcessStep g .threadAttached g.getInterface.1
  /-- an exported function calls that of the interface -/
  | call (g : J2534Global) (f : FuncName) (hf : f ∈ exportsDef) :
      ProcessStep g (.served g.getInterface.2 f) g.getInterface.1

/-! ## The viewer -/

def lower (c : UInt8) : UInt8 := if 0x41 ≤ c ∧ c ≤ 0x5A then c + 0x20 else c

/-- `compare(name, Qt::CaseInsensitive) == 0`, for the text of a value -/
def sameName (text name : List UInt8) : Bool := text.map lower == name.map lower

/-- `ExSelectedInterface` as the viewer takes it from a text. -/
def moduleOf (text : List UInt8) : Option Viewer :=
  let module := none
  let module := if sameName text (utf8 "J2534DllWrapper") then some .wrapper else module
  let module := if sameName text (utf8 "J2534Emulator") then some .emulator else module
  if sameName text (utf8 "J2534Cannelloni") then some .cannelloni else module

/-- `main` of the viewer: whose page it opens. -/
def startPage (settings : Settings) : Option Viewer :=
  match settings.key .v0404 with
  | none => moduleOf []
  | some values => moduleOf (((values .exSelectedInterface).map cString).getD [])

/-! ## One object for all calls -/

/-- The class of a process's interface. -/
def selected (settings : Settings) (stack : List UInt8) : InterfaceClass :=
  (ExJ2534WrapperFactory.create (getClassNameFromRegistry settings stack)).getD .exJ2534SimpleLogger

theorem processAttach_new (settings : Settings) (stack : List UInt8) :
    J2534Global.new.processAttach settings stack =
      { objects := [selected settings stack], interface := some 0 } := by
  unfold J2534Global.processAttach selected
  generalize getClassNameFromRegistry settings stack = className
  by_cases hempty : className = []
  · subst hempty
    have hnone : ExJ2534WrapperFactory.create [] = none := by decide
    rw [hnone]
    rfl
  · simp only [ne_eq, hempty, not_false_eq_true, if_true]
    cases ExJ2534WrapperFactory.create className with
    | none => rfl
    | some c => rfl

theorem served_run (settings : Settings) (stack : List UInt8) (acts : List ProcessAct)
    (g : J2534Global)
    (h : Run ProcessStep (J2534Global.new.processAttach settings stack) acts g) :
    g = { objects := [selected settings stack], interface := some 0 } ∧
      ∀ object f, .served object f ∈ acts → object = 0 := by
  rw [processAttach_new] at h
  refine h.invariant (I := fun acts g =>
    g = { objects := [selected settings stack], interface := some 0 } ∧
      ∀ object f, .served object f ∈ acts → object = 0) ⟨rfl, by simp⟩ ?_
  rintro acts s act s' - ⟨rfl, hall⟩ hstep
  cases hstep with
  | threadAttach =>
    refine ⟨rfl, fun object f hmem => ?_⟩
    rcases List.mem_append.1 hmem with hold | hnew
    · exact hall object f hold
    · cases List.mem_singleton.1 hnew
  | call f' hf =>
    refine ⟨rfl, fun object f hmem => ?_⟩
    rcases List.mem_append.1 hmem with hold | hnew
    · exact hall object f hold
    · cases List.mem_singleton.1 hnew
      rfl

/-! ## The two readings -/

/-- The names that a process and the viewer both know. -/
def sharedNames : List (List UInt8) :=
  [utf8 "J2534DllWrapper", utf8 "J2534Emulator", utf8 "J2534Cannelloni"]

/-- Every selected interface is stored with its NUL. -/
def Terminated (settings : Settings) : Prop :=
  ∀ key values data, settings.key key = some values → values .exSelectedInterface = some data →
    0 ∈ data

/-- Under 04.04, what the viewer takes for a name is one to the letter, in a value that
`className` holds; where only 05.00 is there, no such name is under it. -/
def SamePage (settings : Settings) : Prop :=
  match settings.key .v0404 with
  | some values => ∀ data, values .exSelectedInterface = some data → moduleOf (cString data) ≠ none →
      data.length ≤ maxPath ∧ cString data ∈ sharedNames
  | none => ∀ values data, settings.key .v0500 = some values →
      values .exSelectedInterface = some data → data.length ≤ maxPath → cString data ∉ sharedNames

theorem viewer_create (text : List UInt8) :
    ((ExJ2534WrapperFactory.create text).getD .exJ2534SimpleLogger).viewer =
      if text ∈ sharedNames then moduleOf text else none := by
  split
  · next hmem =>
    simp only [sharedNames, List.mem_cons, List.not_mem_nil, or_false] at hmem
    rcases hmem with rfl | rfl | rfl <;> decide
  · next hmem =>
    simp only [sharedNames, List.mem_cons, List.not_mem_nil, or_false, not_or] at hmem
    obtain ⟨hwrapper, hemulator, hcannelloni⟩ := hmem
    unfold ExJ2534WrapperFactory.create
    cases hfind : generators.find? fun c => c.key == text with
    | none => rfl
    | some c =>
      have hkey : c.key = text := by simpa using List.find?_some hfind
      cases c with
      | exJ2534SimpleLogger => rfl
      | j2534DllWrapper => exact absurd hkey.symm hwrapper
      | j2534Emulator => exact absurd hkey.symm hemulator
      | j2534CannelloniClient => exact absurd hkey.symm hcannelloni

theorem moduleOf_sharedName (text : List UInt8) (h : text ∈ sharedNames) : moduleOf text ≠ none := by
  simp only [sharedNames, List.mem_cons, List.not_mem_nil, or_false] at h
  rcases h with rfl | rfl | rfl <;> decide

/-- The name that a process gets from a value, which ends in its buffer. -/
theorem className_eq (settings : Settings) (stack : List UInt8)
    (values : ValueName → Option (List UInt8))
    (hopen : settings.openFirst [.v0404, .v0500] = some values)
    (hend : ∀ data, values .exSelectedInterface = some data → 0 ∈ data) :
    getClassNameFromRegistry settings stack =
      (((values .exSelectedInterface).filter fun data => decide (data.length ≤ maxPath)).map
        cString).getD [] := by
  unfold getClassNameFromRegistry
  rw [hopen, ← data_query]
  cases hquery : (query values .exSelectedInterface maxPath).data with
  | none => simp only [hquery, Option.map_none, Option.getD_none]
  | some data =>
    simp only [hquery, Option.map_some, Option.getD_some]
    exact cString_append_of_mem _ _ (hend data (data_query_eq_some.1 hquery).1)

/-- Whose messages a process sends, by the key that opens. -/
theorem viewer_selected (settings : Settings) (stack : List UInt8)
    (values : ValueName → Option (List UInt8))
    (hopen : settings.openFirst [.v0404, .v0500] = some values)
    (hend : ∀ data, values .exSelectedInterface = some data → 0 ∈ data) :
    (selected settings stack).viewer = (values .exSelectedInterface).bind fun data =>
      if data.length ≤ maxPath ∧ cString data ∈ sharedNames then moduleOf (cString data)
      else none := by
  have hempty : [] ∉ sharedNames := by decide
  rw [selected, viewer_create, className_eq settings stack values hopen hend]
  cases values .exSelectedInterface with
  | none => exact if_neg hempty
  | some data =>
    by_cases hfits : data.length ≤ maxPath
    · simp [Option.filter, hfits]
    · simp [Option.filter, hfits, hempty]

/-! ## Main result -/

/-- **Process and viewer.**  In any run of a process that was attached, one object of the
selected class serves all calls, and the viewer opens the page for its messages (the page
without any for a logger) exactly where what it reads under 04.04 is a name to the letter or
none, and what is only under 05.00 is none. -/
theorem startPage_iff (settings : Settings) (hends : Terminated settings) (stack : List UInt8)
    (acts : List ProcessAct) (g : J2534Global)
    (h : Run ProcessStep (J2534Global.new.processAttach settings stack) acts g) :
    g.objects = [selected settings stack] ∧
      (∀ object f, .served object f ∈ acts → object = 0) ∧
      (startPage settings = (selected settings stack).viewer ↔ SamePage settings) := by
  obtain ⟨rfl, hserved⟩ := served_run settings stack acts g h
  refine ⟨rfl, hserved, ?_⟩
  have hempty : moduleOf [] = none := by decide
  unfold startPage SamePage
  cases hkey : settings.key .v0404 with
  | some values =>
    have hopen : settings.openFirst [.v0404, .v0500] = some values := by
      simp [openFirst, hkey]
    rw [viewer_selected settings stack values hopen fun data => hends _ _ data hkey]
    simp only
    cases hvalue : values .exSelectedInterface with
    | none => exact iff_of_true hempty (by simp)
    | some data =>
      simp only [Option.map_some, Option.getD_some, Option.bind_some]
      constructor
      · intro heq data' hdata' hname
        obtain rfl : data = data' := Option.some.inj hdata'
        by_contra hother
        rw [if_neg hother] at heq
        exact hname heq
      · intro hall
        by_cases hname : moduleOf (cString data) = none
        · rw [hname, ite_self]
        · rw [if_pos (hall data rfl hname)]
  | none =>
    show moduleOf [] = _ ↔ _
    rw [hempty]
    cases hkey' : settings.key .v0500 with
    | none =>
      have hclosed : settings.openFirst [.v0404, .v0500] = none := by
        simp [openFirst, hkey, hkey']
      have hclass : getClassNameFromRegistry settings stack = [] := by
        simp only [getClassNameFromRegistry, hclosed]
      refine iff_of_true ?_ (by simp)
      rw [selected, hclass]
      decide
    | some values =>
      have hopen : settings.openFirst [.v0404, .v0500] = some values := by
        simp [openFirst, hkey, hkey']
      rw [viewer_selected settings stack values hopen fun data => hends _ _ data hkey']
      constructor
      · rintro heq values' data hvalues hdata hfits hname
        obtain rfl : values = values' := Option.some.inj hvalues
        rw [hdata, Option.bind_some, if_pos ⟨hfits, hname⟩] at heq
        exact moduleOf_sharedName _ hname heq.symm
      · intro hall
        cases hvalue : values .exSelectedInterface with
        | none => rfl
        | some data =>
          rw [Option.bind_some, if_neg]
          rintro ⟨hfits, hname⟩
          exact hall values data rfl hvalue hfits hname

/-- With `j2534emulator` selected the process has a logger, and the viewer opens the page of
the emulator. -/
theorem startPage_iff_case :
    let settings : Settings :=
      { key := fun _ => some fun
          | .exSelectedInterface => some (utf8 "j2534emulator" ++ [0])
          | _ => none
        missing := id }
    Terminated settings ∧ startPage settings = some .emulator ∧
      selected settings [] = .exJ2534SimpleLogger ∧ ¬SamePage settings := by
  intro settings
  have hends : Terminated settings := by
    rintro key values data ⟨⟩ ⟨⟩
    simp
  have hpage : startPage settings = some .emulator := by decide
  have hclass : selected settings [] = .exJ2534SimpleLogger := by decide
  refine ⟨hends, hpage, hclass, fun hsame => ?_⟩
  obtain ⟨-, -, hiff⟩ := startPage_iff settings hends [] [] _ Run.start
  rw [hpage, hclass] at hiff
  exact absurd (hiff.2 hsame) (by decide)

end J2534Oip
