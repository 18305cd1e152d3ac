import J2534Oip.Cannelloni.Api

/-!
# Enumerating devices and opening them

`PassThruGetNextDevice` says of each of the three ports whether it is open;
`PassThruOpen` also counts the devices, and a device on a configured default port outside
the three counts as well.  Over any run of scans, enumerations, opens and closes

    Run EnumStep (CallState.start …) acts s →
      InOrder acts ∧ (AsEnumerated device port result ↔ s.Openable)        (enumeration_iff)

and a default port among the three makes every state openable (`openable_of_defaultPort`).
-/

namespace J2534Oip

namespace CallState

/-! ## Runs -/

/-- What a step shows. -/
inductive EnumAct
  | scanned (retval : J2534Err)
  | next (retval : J2534Err) (device : Option SDevice)
  | opened (result : OpenResult)
  | closed (deviceID : UInt32) (retval : J2534Err)
  | threadEnded (id : Nat)

/-- The four calls, with any arguments and any environment, and a receive thread that leaves
its loop. -/
inductive EnumStep : CallState → EnumAct → CallState → Prop
  | passThruScanForDevices (s : CallState) (pDeviceCount : Bool) :
      EnumStep s (.scanned (s.passThruScanForDevices pDeviceCount).2.1)
        (s.passThruScanForDevices pDeviceCount).1
  | passThruGetNextDevice (s : CallState) (psDevice : Bool) :
      EnumStep s
        (.next (s.passThruGetNextDevice psDevice).2.1 (s.passThruGetNextDevice psDevice).2.2)
        (s.passThruGetNextDevice psDevice).1
  | passThruOpen (s : CallState) (pName : Option (List UInt8)) (pDeviceID : Option UInt32)
      (env : OpenEnv s.world.os) :
      EnumStep s (.opened (s.world.passThruOpen pName pDeviceID env).2)
        { s with world := (s.world.passThruOpen pName pDeviceID env).1 }
  | passThruClose (s : CallState) (deviceID : UInt32) :
      EnumStep s (.closed deviceID (s.world.passThruClose deviceID).2)
        { s with world := (s.world.passThruClose deviceID).1 }
  | threadEnded (s : CallState) (id : Nat) :
      EnumStep s (.threadEnded id) { s with world := { s.world with os := s.world.os.endThread id } }

/-! ## The order of an enumeration -/

/-- The names that came since the last scan; `none` before the first. -/
def addName (names : Option (List (List UInt8))) : EnumAct → Option (List (List UInt8))
  | .scanned retval => if retval = .statusNoError then some [] else names
  | .next retval device =>
    if retval = .statusNoError then
      names.map fun names => names ++ (device.map SDevice.deviceName).toList
    else names
  | .opened _ | .closed _ _ | .threadEnded _ => names

def namesSinceScan (acts : List EnumAct) : Option (List (List UInt8)) := acts.foldl addName none

/-- The three names. -/
def portNames : List (List UInt8) := [deviceName 20000, deviceName 20001, deviceName 20002]

/-- Since the last scan the ports came in order, each once at most. -/
def InOrder (acts : List EnumAct) : Prop :=
  ∀ names, namesSinceScan acts = some names → names <+: portNames

/-- `scanIndex` counts the names since the last scan. -/
def Scanning (acts : List EnumAct) (s : CallState) : Prop :=
  ∀ names, namesSinceScan acts = some names →
    s.scanIndex ≤ virtualDeviceCount ∧ names = portNames.take s.scanIndex

theorem deviceName_getPortFromIndex (i : Nat) (hi : i < virtualDeviceCount) :
    portNames[i]? = some (deviceName (getPortFromIndex i)) := by
  match i, hi with
  | 0, _ | 1, _ | 2, _ => rfl

theorem scanning_step (acts : List EnumAct) (s s' : CallState) (act : EnumAct)
    (h : Scanning acts s) (hstep : EnumStep s act s') : Scanning (acts ++ [act]) s' := by
  have hnext : namesSinceScan (acts ++ [act]) = addName (namesSinceScan acts) act := by
    simp [namesSinceScan]
  unfold Scanning
  rw [hnext]
  cases hstep with
  | passThruScanForDevices pDeviceCount =>
    cases pDeviceCount with
    | false => exact h
    | true =>
      intro names hnames
      obtain rfl : [] = names := Option.some.inj hnames
      exact ⟨Nat.zero_le _, rfl⟩
  | passThruGetNextDevice psDevice =>
    cases psDevice with
    | false => exact h
    | true =>
      by_cases hend : virtualDeviceCount ≤ s.scanIndex
      · simp only [passThruGetNextDevice, if_pos hend, addName]
        exact h
      · have hlt : s.scanIndex < virtualDeviceCount := Nat.lt_of_not_le hend
        simp only [passThruGetNextDevice, if_neg hend, addName]
        intro names hnames
        obtain ⟨before, hbefore, rfl⟩ := Option.map_eq_some_iff.1 hnames
        obtain ⟨-, rfl⟩ := h before hbefore
        refine ⟨hlt, ?_⟩
        show _ = portNames.take (s.scanIndex + 1)
        rw [List.take_add_one, deviceName_getPortFromIndex _ hlt]
        rfl
  | passThruOpen pName pDeviceID env => exact h
  | passThruClose deviceID => exact h
  | threadEnded id => exact h

theorem inOrder_run (init : CallState) (acts : List EnumAct) (s : CallState)
    (h : Run EnumStep init acts s) : InOrder acts := by
  have hscan : Scanning acts s := by
    refine h.invariant nofun ?_
    intro acts s act s' _ hs hstep
    exact scanning_step acts s s' act hs hstep
  intro names hnames
  obtain ⟨-, rfl⟩ := hscan names hnames
  exact List.take_prefix _ _

/-! ## Opening by name -/

/-- The socket calls and the address conversion of an open by `name` succeed. -/
structure Succeeds (w : World) (name : List UInt8) (env : OpenEnv w.os) : Prop where
  socket : env.socket ≠ none
  address : (env.inetPton (selectHost w.client env.inetPton (some name)) true).1 = 1
  connect : env.connect = true

/-- What an open by the name of `device`, enumerated for `port`, is to return. -/
structure AsEnumerated (device : SDevice) (port : UInt32) (result : OpenResult) : Prop where
  available : device.deviceAvailable = 1 →
    result.retval = .statusNoError ∧ result.deviceID = some port
  inUse : device.deviceAvailable = 0 → result.retval = .errDeviceInUse

/-- The port enumerated next is open, or there is room for one more device. -/
def Openable (s : CallState) : Prop :=
  getPortFromIndex s.scanIndex ∈ s.world.client.channelMap ∨
    s.world.client.channelMap.entries.length < numPorts

/-- An open by the name of a device selects its port, whatever the default. -/
theorem selectPort_deviceName (client : J2534CannelloniClient) (i : Nat)
    (hi : i < virtualDeviceCount) :
    selectPort client (some (deviceName (getPortFromIndex i))) = getPortFromIndex i := by
  match i, hi with
  | 0, _ =>
    have h0 : utf8 "20000" <:+: cString (deviceName 20000) := by decide
    show selectPort client (some (deviceName 20000)) = 20000
    rw [selectPort, if_pos h0]
  | 1, _ =>
    have h0 : ¬utf8 "20000" <:+: cString (deviceName 20001) := by decide
    have h1 : utf8 "20001" <:+: cString (deviceName 20001) := by decide
    show selectPort client (some (deviceName 20001)) = 20001
    rw [selectPort, if_neg h0, if_pos h1]
  | 2, _ =>
    have h0 : ¬utf8 "20000" <:+: cString (deviceName 20002) := by decide
    have h1 : ¬utf8 "20001" <:+: cString (deviceName 20002) := by decide
    have h2 : utf8 "20002" <:+: cString (deviceName 20002) := by decide
    show selectPort client (some (deviceName 20002)) = 20002
    rw [selectPort, if_neg h0, if_neg h1, if_pos h2]

theorem passThruOpen_busy (w : World) (pName : Option (List UInt8)) (pDeviceID : UInt32)
    (env : OpenEnv w.os) (hbusy : w.Busy pName) :
    (w.passThruOpen pName (some pDeviceID) env).2.retval = .errDeviceInUse := by
  rcases w.passThruOpen_cases pName (some pDeviceID) env with
    ⟨text, err, hr, -, huse⟩ | ⟨sockfd, ctx, -, -, -, -, -, -, hfree, -⟩
  · rw [hr]
    exact huse.2 ⟨by simp, hbusy⟩
  · exact absurd hbusy hfree

theorem passThruOpen_free (w : World) (name : List UInt8) (pDeviceID : UInt32)
    (env : OpenEnv w.os) (hok : Succeeds w name env) (hfree : ¬w.Busy (some name)) :
    (w.passThruOpen (some name) (some pDeviceID) env).2 =
      { retval := .statusNoError, deviceID := some (selectPort w.client (some name)) } := by
  obtain ⟨sock, hsock⟩ := Option.ne_none_iff_exists'.1 hok.socket
  rw [w.passThruOpen_opens (some name) pDeviceID env hfree sock hsock hok.address hok.connect]

/-- What a successful `PassThruGetNextDevice` gives. -/
theorem passThruGetNextDevice_success (s : CallState) (device : SDevice)
    (h : (s.passThruGetNextDevice true).2 = (.statusNoError, some device)) :
    s.scanIndex < virtualDeviceCount ∧ (s.passThruGetNextDevice true).1.world = s.world ∧
      device.deviceName = deviceName (getPortFromIndex s.scanIndex) ∧
      device.deviceAvailable =
        if getPortFromIndex s.scanIndex ∈ s.world.client.channelMap then 0 else 1 := by
  by_cases hend : virtualDeviceCount ≤ s.scanIndex
  · simp [passThruGetNextDevice, if_pos hend] at h
  · simp only [passThruGetNextDevice, if_neg hend] at h ⊢
    obtain rfl := Option.some.inj (Prod.mk.inj h).2
    exact ⟨Nat.lt_of_not_le hend, rfl, rfl, by simp⟩

/-! ## Agreement -/

theorem asEnumerated_iff (s : CallState) (device : SDevice)
    (h : (s.passThruGetNextDevice true).2 = (.statusNoError, some device)) (pDeviceID : UInt32)
    (env : OpenEnv (s.passThruGetNextDevice true).1.world.os)
    (hok : Succeeds (s.passThruGetNextDevice true).1.world device.deviceName env) :
    AsEnumerated device (getPortFromIndex s.scanIndex)
        ((s.passThruGetNextDevice true).1.world.passThruOpen (some device.deviceName)
          (some pDeviceID) env).2 ↔ s.Openable := by
  obtain ⟨hlt, hworld, hname, havail⟩ := passThruGetNextDevice_success s device h
  generalize (s.passThruGetNextDevice true).1.world = w at hworld env hok ⊢
  subst hworld
  have hport : selectPort s.world.client (some device.deviceName) = getPortFromIndex s.scanIndex := by
    rw [hname]
    exact selectPort_deviceName s.world.client s.scanIndex hlt
  by_cases hopen : getPortFromIndex s.scanIndex ∈ s.world.client.channelMap
  · have hbusy : s.world.Busy (some device.deviceName) := Or.inr (hport ▸ hopen)
    have hinUse := passThruOpen_busy s.world _ pDeviceID env hbusy
    rw [if_pos hopen] at havail
    refine iff_of_true ⟨fun h1 => ?_, fun _ => hinUse⟩ (Or.inl hopen)
    rw [havail] at h1
    exact absurd h1 (by decide)
  · rw [if_neg hopen] at havail
    by_cases hroom : s.world.client.channelMap.entries.length < numPorts
    · have hfree : ¬s.world.Busy (some device.deviceName) := by
        rintro (hfull | hbusy)
        · omega
        · exact hopen (hport ▸ hbusy)
      have hsuccess := passThruOpen_free s.world _ pDeviceID env hok hfree
      rw [hport] at hsuccess
      refine iff_of_true ⟨fun _ => by rw [hsuccess]; exact ⟨rfl, rfl⟩, fun h0 => ?_⟩ (Or.inr hroom)
      rw [havail] at h0
      exact absurd h0 (by decide)
    · -- enumerated as available, but three other devices are open
      have hbusy : s.world.Busy (some device.deviceName) := Or.inl (Nat.le_of_not_lt hroom)
      have hinUse := passThruOpen_busy s.world _ pDeviceID env hbusy
      refine iff_of_false (fun hagree => ?_) (not_or.2 ⟨hopen, hroom⟩)
      have hcode := (hagree.available havail).1
      rw [hinUse] at hcode
      exact absurd hcode (by decide)

/-! ## A default port among the three -/

def ports : List UInt32 := [20000, 20001, 20002]

/-- Nothing but the three ports is open, or can be opened. -/
structure OnPorts (s : CallState) : Prop where
  defaultPort : s.world.client.defaultPort ∈ ports
  keys : ∀ port ∈ s.world.client.channelMap.keys, port ∈ ports

theorem selectPort_mem (client : J2534CannelloniClient) (h : client.defaultPort ∈ ports)
    (pName : Option (List UInt8)) : selectPort client pName ∈ ports := by
  unfold selectPort
  cases pName with
  | none => exact h
  | some name =>
    simp only
    split
    · decide
    · split
      · decide
      · split
        · decide
        · exact h

theorem onPorts_step (s s' : CallState) (act : EnumAct) (h : OnPorts s) (hstep : EnumStep s act s') :
    OnPorts s' := by
  cases hstep with
  | passThruScanForDevices pDeviceCount =>
    cases pDeviceCount <;> exact ⟨h.defaultPort, h.keys⟩
  | passThruGetNextDevice psDevice =>
    unfold passThruGetNextDevice
    split
    · exact ⟨h.defaultPort, h.keys⟩
    · split <;> exact ⟨h.defaultPort, h.keys⟩
  | passThruOpen pName pDeviceID env =>
    rcases s.world.passThruOpen_cases pName pDeviceID env with
      ⟨text, err, hr, -, -⟩ | ⟨sockfd, ctx, -, -, -, -, -, -, -, hr⟩
    · rw [hr]
      exact ⟨h.defaultPort, h.keys⟩
    · rw [hr]
      refine ⟨h.defaultPort, fun port hport => ?_⟩
      rcases (AList.mem_insert _).1 (AList.mem_keys.2 hport) with rfl | hold
      · exact selectPort_mem _ h.defaultPort pName
      · exact h.keys port hold
  | passThruClose deviceID =>
    unfold World.passThruClose
    split
    · exact ⟨h.defaultPort, h.keys⟩
    · refine ⟨h.defaultPort, fun port hport => ?_⟩
      exact h.keys port (AList.mem_erase.1 (AList.mem_keys.2 hport)).2
  | threadEnded id => exact ⟨h.defaultPort, h.keys⟩

/-- Three devices on the three ports leave none of them free. -/
theorem openable_of_onPorts (s : CallState) (h : OnPorts s) (hlt : s.scanIndex < virtualDeviceCount) :
    s.Openable := by
  by_cases hroom : s.world.client.channelMap.entries.length < numPorts
  · exact Or.inr hroom
  · left
    have hsub : s.world.client.channelMap.keys.Subperm ports :=
      List.subperm_of_subset s.world.client.channelMap.nodupKeys h.keys
    have hlen : ports.length ≤ s.world.client.channelMap.keys.length := by
      show 3 ≤ (s.world.client.channelMap.entries.map Sigma.fst).length
      rw [List.length_map]
      exact Nat.le_of_not_lt hroom
    have hperm := hsub.perm_of_length_le hlen
    have hport : getPortFromIndex s.scanIndex ∈ ports := by
      generalize s.scanIndex = i at hlt
      match i, hlt with
      | 0, _ | 1, _ | 2, _ => decide
    exact AList.mem_keys.1 (hperm.mem_iff.2 hport)

theorem openable_of_defaultPort (init : CallState) (acts : List EnumAct) (s : CallState)
    (h : Run EnumStep init acts s) (h0 : OnPorts init) (hlt : s.scanIndex < virtualDeviceCount) :
    s.Openable := by
  refine openable_of_onPorts s ?_ hlt
  refine h.invariant (I := fun _ s => OnPorts s) h0 ?_
  intro acts s act s' _ hs hstep
  exact onPorts_step s s' act hs hstep

/-! ## Main result -/

/-- **Enumeration and opening.**  Over any run the names since the last scan are the three
ports in order; a device enumerated in a state opens as it was enumerated just when the state
is openable, which every state is where the default port is one of the three. -/
theorem enumeration_iff (defaultHost : List UInt8) (defaultPort : UInt32) (cannelloniVersion : UInt8)
    (wsaStartup : Int) (scanIndex : Nat) (acts : List EnumAct) (s : CallState)
    (h : Run EnumStep (start defaultHost defaultPort cannelloniVersion wsaStartup scanIndex) acts s) :
    InOrder acts ∧
      ∀ device, (s.passThruGetNextDevice true).2 = (.statusNoError, some device) →
        device.deviceName = deviceName (getPortFromIndex s.scanIndex) ∧
        (∀ pDeviceID env, Succeeds (s.passThruGetNextDevice true).1.world device.deviceName env →
          (AsEnumerated device (getPortFromIndex s.scanIndex)
            ((s.passThruGetNextDevice true).1.world.passThruOpen (some device.deviceName)
              (some pDeviceID) env).2 ↔ s.Openable)) ∧
        (defaultPort ∈ ports → s.Openable) := by
  refine ⟨inOrder_run _ acts s h, fun device hdevice => ?_⟩
  obtain ⟨hlt, -, hname, -⟩ := passThruGetNextDevice_success s device hdevice
  refine ⟨hname, asEnumerated_iff s device hdevice, fun hdefault => ?_⟩
  refine openable_of_defaultPort _ acts s h ⟨?_, by rintro _ ⟨⟩⟩ hlt
  show (J2534CannelloniClient.construct defaultHost defaultPort cannelloniVersion
    wsaStartup).defaultPort ∈ ports
  unfold J2534CannelloniClient.construct
  split <;> exact hdefault

/-- All socket calls succeed; every address converts. -/
def acceptEnv (os : Os) (sockfd thread : Nat) (hsockfd : sockfd ∉ os.sockets)
    (hthread : thread ∉ os.threads.map RecvThread.id) : OpenEnv os where
  inetPton _ dst := if dst then (1, 0x7F000001) else (-1, 0)
  socket := some ⟨sockfd, hsockfd⟩
  connect := true
  initSend := 5
  wsaGetLastError := 0
  thread := ⟨thread, hthread⟩

theorem acceptEnv_succeeds (w : World) (name : List UInt8) (sockfd thread : Nat)
    (hsockfd : sockfd ∉ w.os.sockets) (hthread : thread ∉ w.os.threads.map RecvThread.id) :
    Succeeds w name (acceptEnv w.os sockfd thread hsockfd hthread) :=
  ⟨by simp [acceptEnv], rfl, rfl⟩

/-- The first device after a scan. -/
theorem enumeration_iff_first :
    let init := start (utf8 "127.0.0.1") 20000 2 0 0
    let s := (init.passThruScanForDevices true).1
    ∃ device, (s.passThruGetNextDevice true).2 = (.statusNoError, some device) ∧
      device.deviceAvailable = 1 ∧
      AsEnumerated device 20000
        ((s.passThruGetNextDevice true).1.world.passThruOpen (some device.deviceName) (some 0)
          (acceptEnv _ 7 1 List.not_mem_nil List.not_mem_nil)).2 := by
  intro init s
  have hrun : Run EnumStep init [.scanned .statusNoError] s :=
    Run.start.next (EnumStep.passThruScanForDevices init true)
  have hroom : s.Openable := Or.inr (by decide)
  refine ⟨_, rfl, by decide, ?_⟩
  exact (((enumeration_iff _ _ _ _ _ _ _ hrun).2 _ rfl).2.1 0 _
    (acceptEnv_succeeds _ _ 7 1 List.not_mem_nil List.not_mem_nil)).2 hroom

/-- With the default port 30000, and 30000, 20000 and 20001 open, 20002 is enumerated as
available and cannot be opened. -/
theorem enumeration_crowded :
    let s₀ := start (utf8 "127.0.0.1") 30000 2 0 0
    ∃ acts s device, Run EnumStep s₀ acts s ∧
      (s.passThruGetNextDevice true).2 = (.statusNoError, some device) ∧
      ∃ env, Succeeds (s.passThruGetNextDevice true).1.world device.deviceName env ∧
        ¬AsEnumerated device (getPortFromIndex s.scanIndex)
          ((s.passThruGetNextDevice true).1.world.passThruOpen (some device.deviceName)
            (some 0) env).2 := by
  intro s₀
  let open₁ := s₀.world.passThruOpen none (some 0)
    (acceptEnv _ 7 1 List.not_mem_nil List.not_mem_nil)
  let open₂ := open₁.1.passThruOpen (some (utf8 "20000")) (some 0)
    (acceptEnv _ 8 2 (by decide) (by decide))
  let open₃ := open₂.1.passThruOpen (some (utf8 "20001")) (some 0)
    (acceptEnv _ 9 3 (by decide) (by decide))
  let s₁ : CallState := { world := open₃.1, scanIndex := 0 }
  let s₂ := (s₁.passThruScanForDevices true).1
  let s₃ := (s₂.passThruGetNextDevice true).1
  let s₄ := (s₃.passThruGetNextDevice true).1
  have hopen₁ : EnumStep s₀ _ { s₀ with world := open₁.1 } := EnumStep.passThruOpen s₀ _ _ _
  have hopen₂ : EnumStep { s₀ with world := open₁.1 } _ { s₀ with world := open₂.1 } :=
    EnumStep.passThruOpen { s₀ with world := open₁.1 } _ _ _
  have hopen₃ : EnumStep { s₀ with world := open₂.1 } _ s₁ :=
    EnumStep.passThruOpen { s₀ with world := open₂.1 } _ _ _
  have hrun := (((((Run.start.next hopen₁).next hopen₂).next hopen₃).next
    (EnumStep.passThruScanForDevices s₁ true)).next
    (EnumStep.passThruGetNextDevice s₂ true)).next (EnumStep.passThruGetNextDevice s₃ true)
  refine ⟨_, s₄, _, hrun, rfl, acceptEnv _ 10 4 (by decide) (by decide),
    acceptEnv_succeeds _ _ 10 4 _ _, fun h => ?_⟩
  exact absurd (h.available rfl).1 (by decide)

end CallState
end J2534Oip
