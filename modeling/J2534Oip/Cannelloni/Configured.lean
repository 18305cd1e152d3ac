import J2534Oip.Cannelloni.Defaults
import J2534Oip.Cannelloni.Enumerate
import J2534Oip.Cannelloni.RoundTrip
import Mathlib.Data.Fintype.EquivFin

/-!
# Clients as their machines configure them

A client takes its defaults from the registry of its machine.  Two things then depend on
the registry alone, over any run:

    every device opens as it was enumerated ↔
      the port is one of the three and the host an address    (enumerates_truly_iff)
    another machine reads what is sent ↔ both have the same data version     (exchange)
-/

namespace J2534Oip

open Bytes Registry

/-- A client constructed on a machine. -/
def CallState.launch (settings : Settings) (behind : List UInt8) (defaultPort : UInt32)
    (wsaStartup : Int) (scanIndex : Nat) : CallState :=
  let d := (getDefaults settings behind defaultPort).defaults
  .start d.defaultHost d.defaultPort d.cannelloniVersion wsaStartup scanIndex

/-! ## Port and host -/

/-- The default host of a client whose key opens. -/
def hostOf (values : ValueName → Option (List UInt8)) (behind : List UInt8) : List UInt8 :=
  match fitting values .defaultHost .host with
  | some data => cString (fill DefaultsVar.host.zeros data ++ behind)
  | none => utf8 "127.0.0.1"

/-- The key opens, the port that clients of the machine open by default is one of the three (a
value too long for a port is none), and `InetPtonA` converts their default host. -/
def NamesDevice (inetPton : List UInt8 → Bool → Int × UInt32) (settings : Settings)
    (behind : List UInt8) : Prop :=
  ∃ values, settings.key .v0404 = some values ∧
    (∀ data, values .defaultPort = some data → data.length ≤ DefaultsVar.port.size →
      20000 ≤ ofLE data ∧ ofLE data ≤ 20002) ∧
    (inetPton (hostOf values behind) true).1 = 1

theorem mem_ports_iff (port : UInt32) :
    port ∈ CallState.ports ↔ 20000 ≤ port.toNat ∧ port.toNat ≤ 20002 := by
  simp only [CallState.ports, List.mem_cons, List.not_mem_nil, or_false, ← UInt32.toNat_inj]
  show port.toNat = 20000 ∨ port.toNat = 20001 ∨ port.toNat = 20002 ↔ _
  omega

theorem wantedPort_mem_iff (settings : Settings) (values : ValueName → Option (List UInt8))
    (hkey : settings.key .v0404 = some values) :
    (wantedDefaults settings).1.defaultPort ∈ CallState.ports ↔
      ∀ data, values .defaultPort = some data → data.length ≤ DefaultsVar.port.size →
        20000 ≤ ofLE data ∧ ofLE data ≤ 20002 := by
  simp only [wantedDefaults, hkey, Option.getD_some]
  cases hfit : fitting values .defaultPort .port with
  | none =>
    refine iff_of_true (by decide) fun data hdata hle => ?_
    rw [fitting_eq_some.2 ⟨hdata, hle⟩] at hfit
    cases hfit
  | some data =>
    obtain ⟨hdata, hle⟩ := fitting_eq_some.1 hfit
    have hlt : ofLE data < 2 ^ 32 := by
      rw [← ofLE_fill_zeros .port data hle]
      exact ofLE_lt_of_length (k := 4) _ (length_fill _ _)
    show UInt32.ofNat (ofLE data) ∈ CallState.ports ↔ _
    rw [mem_ports_iff, UInt32.toNat_ofNat', Nat.mod_eq_of_lt hlt]
    constructor
    · intro hport data' hdata' _
      obtain rfl : data = data' := Option.some.inj (hdata.symm.trans hdata')
      exact hport
    · exact fun h => h data hdata hle

theorem cString_hostOf (values : ValueName → Option (List UInt8)) (behind : List UInt8) :
    cString (hostOf values behind) = hostOf values behind := by
  unfold hostOf
  cases fitting values .defaultHost .host with
  | none =>
    show cString (utf8 "127.0.0.1") = utf8 "127.0.0.1"
    decide
  | some data =>
    refine cString_eq _ fun hmem => ?_
    simpa using List.mem_takeWhile_imp hmem

/-- In terms of what a client holds, where the empty text is no address. -/
theorem namesDevice_iff (inetPton : List UInt8 → Bool → Int × UInt32)
    (hempty : (inetPton [] true).1 ≠ 1) (settings : Settings) (behind : List UInt8)
    (defaultPort : UInt32) :
    NamesDevice inetPton settings behind ↔
      (getDefaults settings behind defaultPort).defaults.defaultPort ∈ CallState.ports ∧
      (inetPton (cString (getDefaults settings behind defaultPort).defaults.defaultHost) true).1 =
        1 := by
  cases hkey : settings.key .v0404 with
  | none =>
    have hhost : (getDefaults settings behind defaultPort).defaults.defaultHost = [] := by
      simp only [getDefaults, hkey]
    rw [hhost]
    refine iff_of_false ?_ fun h => hempty h.2
    rintro ⟨values, hvalues, -⟩
    rw [hkey] at hvalues
    cases hvalues
  | some values =>
    obtain ⟨hdefaults, -⟩ := getDefaults_open settings behind defaultPort values hkey
    have hhost : (getDefaults settings behind defaultPort).defaults.defaultHost =
        hostOf values behind := by
      rw [hdefaults]
      rfl
    have hport : (getDefaults settings behind defaultPort).defaults.defaultPort =
        (wantedDefaults settings).1.defaultPort := by
      rw [hdefaults]
    rw [hhost, hport, cString_hostOf, wantedPort_mem_iff settings values hkey]
    constructor
    · rintro ⟨values', hvalues, hnames⟩
      obtain rfl : values = values' := Option.some.inj (hkey.symm.trans hvalues)
      exact hnames
    · exact fun hnames => ⟨values, hkey, hnames⟩

namespace CallState

/-- A step on a machine, where every open converts addresses with the same `InetPtonA`. -/
structure MachineStep (inetPton : List UInt8 → Bool → Int × UInt32) (s : CallState)
    (act : EnumAct) (s' : CallState) : Prop where
  step : EnumStep s act s'
  opens : ∀ result, act = .opened result → ∃ pName pDeviceID env,
    env.inetPton = inetPton ∧ s.world.passThruOpen pName pDeviceID env = (s'.world, result)

theorem machineStep_open (inetPton : List UInt8 → Bool → Int × UInt32) (s : CallState)
    (pName : Option (List UInt8)) (pDeviceID : Option UInt32) (env : OpenEnv s.world.os)
    (henv : env.inetPton = inetPton) :
    MachineStep inetPton s (.opened (s.world.passThruOpen pName pDeviceID env).2)
      { s with world := (s.world.passThruOpen pName pDeviceID env).1 } where
  step := EnumStep.passThruOpen s pName pDeviceID env
  opens := by
    rintro result ⟨⟩
    exact ⟨pName, pDeviceID, env, henv, rfl⟩

theorem machineStep_scan (inetPton : List UInt8 → Bool → Int × UInt32) (s : CallState) :
    MachineStep inetPton s (.scanned (s.passThruScanForDevices true).2.1)
      (s.passThruScanForDevices true).1 where
  step := EnumStep.passThruScanForDevices s true
  opens := by rintro result ⟨⟩

theorem machineStep_next (inetPton : List UInt8 → Bool → Int × UInt32) (s : CallState) :
    MachineStep inetPton s
      (.next (s.passThruGetNextDevice true).2.1 (s.passThruGetNextDevice true).2.2)
      (s.passThruGetNextDevice true).1 where
  step := EnumStep.passThruGetNextDevice s true
  opens := by rintro result ⟨⟩

theorem enumRun {inetPton : List UInt8 → Bool → Int × UInt32} {init s : CallState}
    {acts : List EnumAct} (h : Run (MachineStep inetPton) init acts s) :
    Run EnumStep init acts s := by
  have hrun : Run EnumStep init (acts.map id) s :=
    h.map id id fun _ _ _ _ _ hstep => hstep.step
  rw [List.map_id] at hrun
  exact hrun

/-! ## The default host -/

theorem defaultHost_step (s s' : CallState) (act : EnumAct) (hstep : EnumStep s act s') :
    s'.world.client.defaultHost = s.world.client.defaultHost := by
  cases hstep with
  | passThruScanForDevices pDeviceCount => cases pDeviceCount <;> rfl
  | passThruGetNextDevice psDevice =>
    unfold passThruGetNextDevice
    split
    · rfl
    · split <;> rfl
  | passThruOpen pName pDeviceID env =>
    rcases s.world.passThruOpen_cases pName pDeviceID env with
      ⟨text, err, hr, -, -⟩ | ⟨sockfd, ctx, -, -, -, -, -, -, -, hr⟩
    · rw [hr]
      rfl
    · rw [hr]
      rfl
  | passThruClose deviceID =>
    unfold World.passThruClose
    split <;> rfl
  | threadEnded id => rfl

theorem defaultHost_run (init : CallState) (acts : List EnumAct) (s : CallState)
    (h : Run EnumStep init acts s) :
    s.world.client.defaultHost = init.world.client.defaultHost := by
  refine h.invariant (I := fun _ s => s.world.client.defaultHost = init.world.client.defaultHost)
    rfl ?_
  intro acts s act s' _ hs hstep
  rw [defaultHost_step s s' act hstep, hs]

/-- A name that is empty, or longer than any address, is not taken for the host. -/
theorem selectHost_default (client : J2534CannelloniClient)
    (inetPton : List UInt8 → Bool → Int × UInt32) (name : List UInt8)
    (h : (cString name).length = 0 ∨ 15 < (cString name).length) :
    selectHost client inetPton (some name) = cString client.defaultHost := by
  have hinvalid : isValidHostString inetPton (cString name) = false := if_pos h
  simp [selectHost, hinvalid]

theorem length_deviceName (i : Nat) (hi : i < virtualDeviceCount) :
    15 < (cString (deviceName (getPortFromIndex i))).length := by
  match i, hi with
  | 0, _ | 1, _ | 2, _ => decide

theorem passThruOpen_badHost (w : World) (pName : Option (List UInt8)) (pDeviceID : Option UInt32)
    (env : OpenEnv w.os)
    (hhost : (env.inetPton (selectHost w.client env.inetPton pName) true).1 ≠ 1) :
    (w.passThruOpen pName pDeviceID env).2.retval ≠ .statusNoError := by
  unfold World.passThruOpen
  split
  · simp [World.openFail]
  · simp only [if_pos hhost]
    split
    · simp [World.openFail]
    · split
      · simp [World.openFail]
      · split <;> simp [World.openFail]

/-! ## Three devices that leave a port free -/

/-- An environment of the machine in which the socket calls succeed. -/
theorem exists_machineEnv (inetPton : List UInt8 → Bool → Int × UInt32) (os : Os) :
    ∃ env : OpenEnv os, env.inetPton = inetPton ∧ env.socket ≠ none ∧ env.connect = true := by
  obtain ⟨sockfd, hsockfd⟩ := Infinite.exists_notMem_finset os.sockets.toFinset
  obtain ⟨thread, hthread⟩ :=
    Infinite.exists_notMem_finset (os.threads.map RecvThread.id).toFinset
  rw [List.mem_toFinset] at hsockfd hthread
  exact ⟨{ acceptEnv os sockfd thread hsockfd hthread with inetPton := inetPton }, rfl,
    by simp [acceptEnv], rfl⟩

variable {inetPton : List UInt8 → Bool → Int × UInt32}

/-- One more device by a name that is no address, where there is room for it. -/
theorem exists_open (init : CallState) (acts : List EnumAct) (s : CallState)
    (h : Run (MachineStep inetPton) init acts s)
    (hhost : (inetPton (cString s.world.client.defaultHost) true).1 = 1) (name : List UInt8)
    (hname : (cString name).length = 0 ∨ 15 < (cString name).length) (port : UInt32)
    (hport : selectPort s.world.client (some name) = port)
    (hroom : s.world.client.channelMap.keys.length < numPorts)
    (hnew : port ∉ s.world.client.channelMap.keys) :
    ∃ acts' s', Run (MachineStep inetPton) init acts' s' ∧
      s'.world.client.defaultHost = s.world.client.defaultHost ∧
      s'.world.client.channelMap.keys = port :: s.world.client.channelMap.keys := by
  subst hport
  have hfree : ¬s.world.Busy (some name) := by
    rintro (hfull | hmem)
    · rw [AList.keys, List.keys, List.length_map] at hroom
      omega
    · exact hnew (AList.mem_keys.1 hmem)
  obtain ⟨env, rfl, hsocket, hconnect⟩ := exists_machineEnv inetPton s.world.os
  obtain ⟨sock, hsock⟩ := Option.ne_none_iff_exists'.1 hsocket
  rw [← selectHost_default s.world.client env.inetPton name hname] at hhost
  refine ⟨_, _, h.next (machineStep_open env.inetPton s (some name) (some 0) env rfl), ?_⟩
  rw [s.world.passThruOpen_opens (some name) 0 env hfree sock hsock hhost hconnect]
  refine ⟨rfl, ?_⟩
  simp only [J2534CannelloniClient.setChannel, AList.keys_insert]
  rw [List.erase_of_not_mem hnew]

theorem selectPort_nil (client : J2534CannelloniClient) :
    selectPort client (some []) = client.defaultPort := by
  have h0 : ¬utf8 "20000" <:+: cString [] := by decide
  have h1 : ¬utf8 "20001" <:+: cString [] := by decide
  have h2 : ¬utf8 "20002" <:+: cString [] := by decide
  simp only [selectPort, h0, h1, h2, if_false]

/-- Opened by default, by 20000 and by 20001: 20002 is announced and cannot be opened. -/
theorem exists_crowded (init : CallState) (hports : init.world.client.defaultPort ∉ ports)
    (hhost : (inetPton (cString init.world.client.defaultHost) true).1 = 1)
    (hempty : init.world.client.channelMap.keys = []) :
    ∃ acts s, Run (MachineStep inetPton) init acts s ∧ s.scanIndex = 2 ∧ ¬s.Openable := by
  simp only [ports, List.mem_cons, List.not_mem_nil, or_false, not_or] at hports
  obtain ⟨acts₁, s₁, hrun₁, hhost₁, hkeys₁⟩ := exists_open init [] init Run.start hhost []
    (Or.inl rfl) _ (selectPort_nil _) (by rw [hempty]; show 0 < 3; omega)
    (by rw [hempty]; exact List.not_mem_nil)
  rw [hempty] at hkeys₁
  obtain ⟨acts₂, s₂, hrun₂, hhost₂, hkeys₂⟩ := exists_open init acts₁ s₁ hrun₁
    (by rw [hhost₁]; exact hhost) _ (Or.inr (length_deviceName 0 (by decide))) 20000
    (selectPort_deviceName _ 0 (by decide)) (by rw [hkeys₁]; show 1 < 3; omega) (by
      rw [hkeys₁, List.mem_singleton]
      exact fun h => hports.1 h.symm)
  rw [hkeys₁] at hkeys₂
  obtain ⟨acts₃, s₃, hrun₃, -, hkeys₃⟩ := exists_open init acts₂ s₂ hrun₂
    (by rw [hhost₂, hhost₁]; exact hhost) _ (Or.inr (length_deviceName 1 (by decide))) 20001
    (selectPort_deviceName _ 1 (by decide)) (by rw [hkeys₂]; show 2 < 3; omega) (by
      rw [hkeys₂, List.mem_cons, List.mem_singleton]
      rintro (h | h)
      · exact absurd h (by decide)
      · exact hports.2.1 h.symm)
  rw [hkeys₂] at hkeys₃
  let s₄ := (s₃.passThruScanForDevices true).1
  let s₅ := (s₄.passThruGetNextDevice true).1
  let s₆ := (s₅.passThruGetNextDevice true).1
  have hrun₆ := ((hrun₃.next (machineStep_scan inetPton s₃)).next
    (machineStep_next inetPton s₄)).next (machineStep_next inetPton s₅)
  refine ⟨_, s₆, hrun₆, rfl, ?_⟩
  show ¬((20002 : UInt32) ∈ s₃.world.client.channelMap ∨
    s₃.world.client.channelMap.entries.length < numPorts)
  have hlen : s₃.world.client.channelMap.entries.length = 3 := by
    rw [← List.length_map (f := Sigma.fst)]
    exact congrArg List.length hkeys₃
  rintro (hmem | hroom)
  · have hmem := AList.mem_keys.1 hmem
    rw [hkeys₃] at hmem
    simp only [List.mem_cons, List.not_mem_nil, or_false] at hmem
    rcases hmem with h | h | h
    · exact absurd h (by decide)
    · exact absurd h (by decide)
    · exact hports.2.2 h.symm
  · rw [hlen] at hroom
    exact absurd hroom (by decide)

/-! ## Enumerated and opened -/

theorem client_launch (settings : Settings) (behind : List UInt8) (defaultPort : UInt32)
    (wsaStartup : Int) (scanIndex : Nat) :
    (launch settings behind defaultPort wsaStartup scanIndex).world.client.defaultPort =
        (getDefaults settings behind defaultPort).defaults.defaultPort ∧
      (launch settings behind defaultPort wsaStartup scanIndex).world.client.defaultHost =
        (getDefaults settings behind defaultPort).defaults.defaultHost := by
  unfold launch start World.start J2534CannelloniClient.construct
  simp only []
  split <;> exact ⟨rfl, rfl⟩

/-- The device enumerated next opens as it is enumerated, whenever the socket calls succeed. -/
def OpensNext (inetPton : List UInt8 → Bool → Int × UInt32) (s : CallState) : Prop :=
  ∀ device, (s.passThruGetNextDevice true).2 = (.statusNoError, some device) →
    ∀ pDeviceID env, env.inetPton = inetPton → env.socket ≠ none → env.connect = true →
      AsEnumerated device (getPortFromIndex s.scanIndex)
        ((s.passThruGetNextDevice true).1.world.passThruOpen (some device.deviceName)
          (some pDeviceID) env).2

theorem exists_next (s : CallState) (h : s.scanIndex < virtualDeviceCount) :
    ∃ device, (s.passThruGetNextDevice true).2 = (.statusNoError, some device) := by
  simp only [passThruGetNextDevice, if_neg (Nat.not_le.2 h)]
  exact ⟨_, rfl⟩

/-- The name of a device is too long for an address, so the default host is taken. -/
theorem selectHost_next (s : CallState) (device : SDevice)
    (hdevice : (s.passThruGetNextDevice true).2 = (.statusNoError, some device)) :
    selectHost (s.passThruGetNextDevice true).1.world.client inetPton (some device.deviceName) =
      cString s.world.client.defaultHost := by
  obtain ⟨hlt, hworld, hname, -⟩ := passThruGetNextDevice_success s device hdevice
  have hclient : (s.passThruGetNextDevice true).1.world.client = s.world.client :=
    congrArg World.client hworld
  rw [hname, selectHost_default _ _ _ (Or.inr (length_deviceName _ hlt)), hclient]

/-- With a host that converts, opening the next device is a matter of room. -/
theorem opensNext_iff (s : CallState) (hlt : s.scanIndex < virtualDeviceCount)
    (hhost : (inetPton (cString s.world.client.defaultHost) true).1 = 1) :
    OpensNext inetPton s ↔ s.Openable := by
  have hsucceeds (device : SDevice)
      (hdevice : (s.passThruGetNextDevice true).2 = (.statusNoError, some device))
      (env : OpenEnv (s.passThruGetNextDevice true).1.world.os) (henv : env.inetPton = inetPton)
      (hsocket : env.socket ≠ none) (hconnect : env.connect = true) :
      Succeeds (s.passThruGetNextDevice true).1.world device.deviceName env := by
    refine ⟨hsocket, ?_, hconnect⟩
    rw [henv, selectHost_next s device hdevice]
    exact hhost
  constructor
  · intro hopens
    obtain ⟨device, hdevice⟩ := exists_next s hlt
    obtain ⟨env, henv, hsocket, hconnect⟩ :=
      exists_machineEnv inetPton (s.passThruGetNextDevice true).1.world.os
    exact (asEnumerated_iff s device hdevice 0 env
      (hsucceeds device hdevice env henv hsocket hconnect)).1
      (hopens device hdevice 0 env henv hsocket hconnect)
  · intro hopenable device hdevice pDeviceID env henv hsocket hconnect
    exact (asEnumerated_iff s device hdevice pDeviceID env
      (hsucceeds device hdevice env henv hsocket hconnect)).2 hopenable

/-- With a host that does not, a device that is enumerated as free cannot be opened. -/
theorem not_opensNext_of_host (s : CallState) (hlt : s.scanIndex < virtualDeviceCount)
    (hhost : (inetPton (cString s.world.client.defaultHost) true).1 ≠ 1)
    (hfree : getPortFromIndex s.scanIndex ∉ s.world.client.channelMap) :
    ¬OpensNext inetPton s := by
  intro hopens
  obtain ⟨device, hdevice⟩ := exists_next s hlt
  obtain ⟨-, -, -, havail⟩ := passThruGetNextDevice_success s device hdevice
  rw [if_neg hfree] at havail
  obtain ⟨env, henv, hsocket, hconnect⟩ :=
    exists_machineEnv inetPton (s.passThruGetNextDevice true).1.world.os
  have hopen := (hopens device hdevice 0 env henv hsocket hconnect).available havail
  refine passThruOpen_badHost _ _ _ env ?_ hopen.1
  rw [henv, selectHost_next s device hdevice]
  exact hhost

/-- **Enumeration on a machine.**  Where the empty text is no address, each device opens as it
was enumerated in every run of every client of the machine, exactly if the registry gives the
client one of the three ports and a host that is an address. -/
theorem enumerates_truly_iff (inetPton : List UInt8 → Bool → Int × UInt32)
    (hempty : (inetPton [] true).1 ≠ 1) (settings : Settings) (behind : List UInt8)
    (defaultPort : UInt32) (wsaStartup : Int) (scanIndex : Nat) :
    (∀ acts s, Run (MachineStep inetPton)
        (launch settings behind defaultPort wsaStartup scanIndex) acts s → OpensNext inetPton s) ↔
      NamesDevice inetPton settings behind := by
  obtain ⟨hport, hhost⟩ := client_launch settings behind defaultPort wsaStartup scanIndex
  rw [namesDevice_iff inetPton hempty settings behind defaultPort, ← hport, ← hhost]
  have hsame := fun acts s (hrun : Run (MachineStep inetPton) _ acts s) =>
    defaultHost_run (launch settings behind defaultPort wsaStartup scanIndex) acts s (enumRun hrun)
  constructor
  · intro hall
    have hconverts : (inetPton (cString (launch settings behind defaultPort wsaStartup
        scanIndex).world.client.defaultHost) true).1 = 1 := by
      -- the first device after a scan is enumerated as free
      let s := ((launch settings behind defaultPort wsaStartup
        scanIndex).passThruScanForDevices true).1
      have hfirst : s.scanIndex < virtualDeviceCount := by
        show 0 < virtualDeviceCount
        decide
      by_contra hbad
      exact not_opensNext_of_host s hfirst hbad (by rintro ⟨⟩)
        (hall _ s (Run.start.next (machineStep_scan inetPton _)))
    refine ⟨?_, hconverts⟩
    by_contra hports
    obtain ⟨acts, s, hrun, hindex, hcrowded⟩ := exists_crowded _ hports hconverts rfl
    rw [← hsame acts s hrun] at hconverts
    exact hcrowded ((opensNext_iff s (by rw [hindex]; decide) hconverts).1 (hall acts s hrun))
  · rintro ⟨hports, hconverts⟩ acts s hrun device hdevice
    obtain ⟨hlt, -⟩ := passThruGetNextDevice_success s device hdevice
    rw [← hsame acts s hrun] at hconverts
    have hstart : OnPorts (launch settings behind defaultPort wsaStartup scanIndex) :=
      ⟨hports, by rintro _ ⟨⟩⟩
    exact (opensNext_iff s hlt hconverts).2
      (openable_of_defaultPort _ acts s (enumRun hrun) hstart hlt) device hdevice

/-- A `InetPtonA` that knows the loopback address. -/
def loopbackPton (host : List UInt8) (dst : Bool) : Int × UInt32 :=
  if dst = false then (-1, 0) else if host = utf8 "127.0.0.1" then (1, 0x0100007F) else (0, 0)

/-- With the key and no value under it every device opens as it was enumerated; without the
key the default host is empty, and some device does not. -/
theorem enumerates_truly_iff_key :
    let machine : Option (ValueName → Option (List UInt8)) → Settings := fun values =>
      { key := fun _ => values, missing := id }
    (∀ acts s, Run (MachineStep loopbackPton) (launch (machine (some fun _ => none)) [] 0 0 0)
        acts s → OpensNext loopbackPton s) ∧
      ∃ acts s, Run (MachineStep loopbackPton) (launch (machine none) [] 20000 0 0) acts s ∧
        ¬OpensNext loopbackPton s := by
  intro machine
  have hempty : (loopbackPton [] true).1 ≠ 1 := by decide
  constructor
  · refine (enumerates_truly_iff loopbackPton hempty (machine (some fun _ => none)) [] 0 0 0).2 ?_
    refine ⟨fun _ => none, rfl, by rintro _ ⟨⟩, ?_⟩
    show (loopbackPton (utf8 "127.0.0.1") true).1 = 1
    decide
  · by_contra hnone
    obtain ⟨values, hvalues, -⟩ :=
      (enumerates_truly_iff loopbackPton hempty (machine none) [] 20000 0 0).1
        fun acts s hrun => by_contra fun hopens => hnone ⟨acts, s, hrun, hopens⟩
    cases hvalues

end CallState

/-! ## The data version -/

/-- What `getDefaults` leaves in `cannelloniVersion` on a machine. -/
def dataVersion (settings : Settings) : UInt8 :=
  match settings.key .v0404 with
  | none => 1
  | some values =>
    match (query values .cannelloniDataVersion (sizeForVersion settings values)).data with
    | some data => UInt8.ofNat (ofLE (fill DefaultsVar.version.zeros data))
    | none => 1

theorem cannelloniVersion_eq (settings : Settings) (behind : List UInt8) (defaultPort : UInt32) :
    (getDefaults settings behind defaultPort).defaults.cannelloniVersion = dataVersion settings := by
  unfold dataVersion
  cases hkey : settings.key .v0404 with
  | none => simp only [getDefaults, hkey]
  | some values =>
    exact congrArg Defaults.cannelloniVersion
      (getDefaults_open settings behind defaultPort values hkey).1

/-- A datagram of another version ends the loop, init packet or frame. -/
theorem receiveLoop_otherVersion (version version' : UInt8) (hne : version ≠ version')
    (polls : List Poll) (sent : List Sent) (r : Receiver) (hr : r.running = true)
    (hvalid : ∀ x ∈ sent, x.Valid) (hsent : datagrams polls = sent.map (Sent.datagram version)) :
    (receiveLoop version' r polls).msgQueue = r.msgQueue ∧
      ((receiveLoop version' r polls).running = true ↔ sent = []) := by
  induction polls generalizing r with
  | nil =>
    obtain rfl : sent = [] := List.map_eq_nil_iff.1 hsent.symm
    exact ⟨rfl, iff_of_true hr rfl⟩
  | cons p polls ih =>
    cases p with
    | quiet => exact ih r hr hsent
    | datagram d =>
      obtain ⟨x, sent, rfl, rfl, -⟩ := List.map_eq_cons_iff.1 hsent.symm
      have hbad := wellFormed_otherVersion version version' x (hvalid x List.mem_cons_self) hne
      have hpoll := poll_datagram version' r (x.datagram version) hr
      rw [hbad, if_neg Bool.false_ne_true] at hpoll
      show (receiveLoop version' (r.poll version' _) polls).msgQueue = _ ∧
        ((receiveLoop version' (r.poll version' _) polls).running = true ↔ _)
      rw [hpoll, receiveLoop_stopped version' _ _ rfl]
      exact ⟨rfl, iff_of_false Bool.false_ne_true (List.cons_ne_nil _ _)⟩

/-- **Two machines.**  Clients of two machines, each in any run; of the datagrams the one
sent, any are received by a thread of the other.  If the machines have the same data
version, the queue grows by the messages up to the first frame with less than 8 data bytes;
else by none, and the first datagram ends the thread. -/
theorem exchange (settings settings' : Settings) (behind behind' : List UInt8)
    (defaultPort defaultPort' : UInt32) (wsaStartup wsaStartup' : Int)
    (scanIndex scanIndex' : Nat) (acts acts' : List WireAct) (s s' : CallState)
    (hrun : Run WireStep (.launch settings behind defaultPort wsaStartup scanIndex) acts s)
    (hrun' : Run WireStep (.launch settings' behind' defaultPort' wsaStartup' scanIndex') acts' s')
    (r : Receiver) (hr : r.running = true) (polls : List Poll)
    (hpolls : ∀ d ∈ datagrams polls, Emitted s.world.client.cannelloniVersion acts d.bytes) :
    ∃ sent : List Sent, (∀ x ∈ sent, x.Valid) ∧
      datagrams polls = sent.map (Sent.datagram s.world.client.cannelloniVersion) ∧
      (receiveLoop s'.world.client.cannelloniVersion r polls).msgQueue =
        (if dataVersion settings = dataVersion settings' then
          r.msgQueue ++ (sent.takeWhile Sent.whole).filterMap Sent.readBack
        else r.msgQueue) ∧
      ((receiveLoop s'.world.client.cannelloniVersion r polls).running = true ↔
        sent = [] ∨ dataVersion settings = dataVersion settings' ∧
          ∀ x ∈ sent, x.whole = true) := by
  have hversion := (emitted_run _ _ _ _ _ acts s hrun).1
  have hversion' := (emitted_run _ _ _ _ _ acts' s' hrun').1
  rw [cannelloniVersion_eq] at hversion hversion'
  rw [hversion] at hpolls ⊢
  rw [hversion']
  rw [← cannelloniVersion_eq settings behind defaultPort] at hpolls
  obtain ⟨sent, hvalid, hsent⟩ := exists_sent _ _ _ _ _ acts s hrun (datagrams polls) hpolls
  rw [cannelloniVersion_eq] at hsent
  refine ⟨sent, hvalid, hsent, ?_⟩
  by_cases heq : dataVersion settings = dataVersion settings'
  · rw [if_pos heq, ← heq]
    obtain ⟨hqueue, hrunning⟩ :=
      receiveLoop_datagrams (dataVersion settings) polls sent r hr hvalid hsent
    refine ⟨hqueue, hrunning.trans ?_⟩
    constructor
    · exact fun hall => Or.inr ⟨rfl, hall⟩
    · rintro (rfl | ⟨-, hall⟩)
      · simp
      · exact hall
  · rw [if_neg heq]
    obtain ⟨hqueue, hrunning⟩ := receiveLoop_otherVersion (dataVersion settings)
      (dataVersion settings') heq polls sent r hr hvalid hsent
    refine ⟨hqueue, hrunning.trans ?_⟩
    simp only [heq, false_and, or_false]

/-- Version 2 on all machines, the port in two bytes on two of them and in four on the third:
the two send version 1 and read each other up to the frame of one data byte, and the init
packet of one ends the thread of the third. -/
theorem exchange_twoBytePort :
    let machine : List UInt8 → Settings := fun port =>
      { key := fun _ => some fun
          | .defaultPort => some port
          | .cannelloniDataVersion => some [2, 0, 0, 0]
          | _ => none
        missing := id }
    let full := extendedFrame [0x18, 0xDA, 0xF1, 0x10, 2, 1, 0, 0, 0, 0, 0, 0]
    let short := PassthruMsg.ofBytes [0, 0, 7, 0xE0, 1]
    let sent : List Sent := [.init, .frame 0 full, .frame 1 short, .frame 0 full]
    let polls : List Poll := sent.map fun x => .datagram (x.datagram 1)
    let r : Receiver := ⟨fun _ => 0, true, []⟩
    dataVersion (machine [0x20, 0x4E]) = 1 ∧ dataVersion (machine [0x20, 0x4E, 0, 0]) = 2 ∧
      (receiveLoop 1 r polls).msgQueue = [readBack full] ∧
      (receiveLoop 2 r polls).msgQueue = [] ∧ ¬(receiveLoop 2 r polls).running = true := by
  intro machine full short sent polls r
  have hone : dataVersion (machine [0x20, 0x4E]) = 1 := by decide
  have htwo : dataVersion (machine [0x20, 0x4E, 0, 0]) = 2 := by decide
  let start := CallState.launch (machine [0x20, 0x4E]) [] 0 0 0
  let env := CallState.acceptEnv start.world.os 7 1 List.not_mem_nil List.not_mem_nil
  have hopen := Run.start.next (WireStep.passThruOpen start none (some 0) env)
  have hwrite := hopen.next
    (WireStep.passThruWriteMsgs _ 20000 [full, short] (fun k => 18 - 7 * k) 0)
  let acts : List WireAct :=
    [.opened 20000, .wrote 20000 [buildPacket 1 0 full, buildPacket 1 1 short]]
  have hrun : Run WireStep start acts _ := hwrite
  obtain ⟨hinit, hframe⟩ :=
    emitted_opened_wrote 1 20000 [buildPacket 1 0 full, buildPacket 1 1 short]
  have hpolls : ∀ d ∈ datagrams polls, Emitted 1 acts d.bytes := by
    intro d hd
    simp only [polls, sent, List.map_cons, List.map_nil, datagrams, List.mem_cons,
      List.not_mem_nil, or_false] at hd
    rcases hd with rfl | rfl | rfl | rfl
    · exact hinit
    · exact hframe _ List.mem_cons_self
    · exact hframe _ (List.mem_cons_of_mem _ List.mem_cons_self)
    · exact hframe _ List.mem_cons_self
  have hfull : Accepted full := ⟨Or.inl rfl, by decide, by decide⟩
  have hshort : Accepted short := ⟨Or.inl rfl, by decide, by decide⟩
  have hvalid : ∀ x ∈ sent, x.Valid :=
    List.forall_mem_cons.2 ⟨trivial, List.forall_mem_cons.2 ⟨hfull,
      List.forall_mem_cons.2 ⟨hshort, List.forall_mem_singleton.2 hfull⟩⟩⟩
  -- to a machine of the same kind, and to one of the other
  have hsame : Run WireStep (CallState.launch (machine [0x20, 0x4E]) [] 0 0 0) [] _ := Run.start
  have hother : Run WireStep (CallState.launch (machine [0x20, 0x4E, 0, 0]) [] 0 0 0) [] _ :=
    Run.start
  obtain ⟨sent₁, hvalid₁, hsent₁, hqueue₁, -⟩ :=
    exchange _ _ _ _ _ _ _ _ _ _ _ _ _ _ hrun hsame r rfl polls hpolls
  obtain ⟨sent₂, -, hsent₂, hqueue₂, hrunning₂⟩ :=
    exchange _ _ _ _ _ _ _ _ _ _ _ _ _ _ hrun hother r rfl polls hpolls
  have hversion₁ : (CallState.launch (machine [0x20, 0x4E]) [] 0 0
    0).world.client.cannelloniVersion = 1 := rfl
  have hversion₂ : (CallState.launch (machine [0x20, 0x4E, 0, 0]) [] 0 0
    0).world.client.cannelloniVersion = 2 := rfl
  have hread := (readable_eq 1 sent₁ sent hvalid₁ hvalid hsent₁.symm).1
  rw [hversion₁, if_pos rfl, hread] at hqueue₁
  rw [hversion₂, hone, htwo, if_neg (by decide)] at hqueue₂
  rw [hversion₂, hone, htwo] at hrunning₂
  refine ⟨hone, htwo, hqueue₁, hqueue₂, ?_⟩
  rw [hrunning₂]
  rintro (rfl | ⟨heq, -⟩)
  · cases hsent₂
  · exact absurd heq (by decide)

end J2534Oip
