import J2534Oip.Settings

/-!
# `J2534CannelloniClient::getDefaults`

Three values come from the registry, each into a variable of its own with a default in its
place.  The size that the query for the port leaves is stated to the query for the version,
whose variable has 4 bytes whatever it says.  What should be read is each value by itself:

    getDefaults settings = wantedDefaults settings, in its variables ↔
      the key opens, the host ends, and the version fits 4 bytes iff it fits that size
                                                            (getDefaults_eq_wanted_iff)
-/

namespace J2534Oip

open Bytes Registry

@[ext]
structure Defaults where
  defaultHost : List UInt8
  defaultPort : UInt32
  cannelloniVersion : UInt8
deriving DecidableEq

/-- The variables that the queries fill. -/
inductive DefaultsVar
  | host
  | port
  | version
deriving DecidableEq

namespace DefaultsVar

def size : DefaultsVar → Nat
  | .host => maxPath
  | .port => 4
  | .version => 4

/-- `= {0}` and `= 0` -/
def zeros (v : DefaultsVar) : List UInt8 := List.replicate v.size 0

end DefaultsVar

/-- What a call of `getDefaults` comes to, and what it did to its variables. -/
structure DefaultsRun where
  defaults : Defaults
  retc : Nat
  /-- what the queries copied, each to the front of a variable -/
  writes : List (DefaultsVar × List UInt8)
  /-- the buffers that a string was taken from -/
  scanned : List (List UInt8)

def errorSuccess : UInt32 := 0
def errorAssertionFailure : UInt32 := 668

def DefaultsRun.retval (r : DefaultsRun) : UInt32 :=
  if r.retc = 3 then errorSuccess else errorAssertionFailure

/-- `getDefaults`.  The members have their values from the constructor: an empty
`defaultHost`, whatever was in `defaultPort`, version 1.  A host that does not end in `host`
goes on with what lies behind it. -/
def getDefaults (settings : Settings) (behind : List UInt8) (defaultPort : UInt32) : DefaultsRun :=
  match settings.key .v0404 with
  | none =>
    { defaults := { defaultHost := [], defaultPort := defaultPort, cannelloniVersion := 1 },
      retc := 0, writes := [], scanned := [] }
  | some values =>
    let host := (query values .defaultHost DefaultsVar.host.size).data
    let portAnswer := query values .defaultPort DefaultsVar.port.size
    let port := portAnswer.data
    -- `portSize` again, not set back to `sizeof(version)`
    let portSize := portAnswer.size settings.missing DefaultsVar.port.size
    let version := (query values .cannelloniDataVersion portSize).data
    { defaults :=
        { defaultHost := match host with
            | some data => cString (fill DefaultsVar.host.zeros data ++ behind)
            | none => utf8 "127.0.0.1"
          defaultPort := match port with
            | some data => UInt32.ofNat (ofLE (fill DefaultsVar.port.zeros data))
            | none => 20000
          cannelloniVersion := match version with
            | some data => UInt8.ofNat (ofLE (fill DefaultsVar.version.zeros data))
            | none => 1 }
      retc := host.toList.length + port.toList.length + version.toList.length
      writes := host.toList.map (Prod.mk .host) ++ port.toList.map (Prod.mk .port) ++
        version.toList.map (Prod.mk .version)
      scanned := host.toList.map (fill DefaultsVar.host.zeros) }

/-- The queries write to their own variables only, and a string ends in its buffer. -/
structure DefaultsRun.Within (r : DefaultsRun) : Prop where
  writes : ∀ w ∈ r.writes, w.2.length ≤ w.1.size
  scanned : ∀ buffer ∈ r.scanned, 0 ∈ buffer

/-! ## Each value by itself -/

/-- A value that fits its variable. -/
def fitting (values : ValueName → Option (List UInt8)) (name : ValueName) (v : DefaultsVar) :
    Option (List UInt8) :=
  (values name).filter fun data => decide (data.length ≤ v.size)

/-- What `getDefaults` is for: the values that are there and fit, a default for any other,
and how many were taken. -/
def wantedDefaults (settings : Settings) : Defaults × Nat :=
  let values := (settings.key .v0404).getD fun _ => none
  let host := fitting values .defaultHost .host
  let port := fitting values .defaultPort .port
  let version := fitting values .cannelloniDataVersion .version
  ({ defaultHost := (host.map cString).getD (utf8 "127.0.0.1")
     defaultPort := (port.map fun data => UInt32.ofNat (ofLE data)).getD 20000
     cannelloniVersion := (version.map fun data => UInt8.ofNat (ofLE data)).getD 1 },
    host.toList.length + port.toList.length + version.toList.length)

/-- The size that the query for the version is given. -/
def sizeForVersion (settings : Settings) (values : ValueName → Option (List UInt8)) : Nat :=
  match values .defaultPort with
  | some data => data.length
  | none => settings.missing DefaultsVar.port.size

theorem size_portAnswer (settings : Settings) (values : ValueName → Option (List UInt8)) :
    (query values .defaultPort DefaultsVar.port.size).size settings.missing
      DefaultsVar.port.size = sizeForVersion settings values := by
  unfold query sizeForVersion
  cases values .defaultPort with
  | none => rfl
  | some data =>
    by_cases hfits : data.length ≤ DefaultsVar.port.size
    · simp only [if_pos hfits]
      rfl
    · simp only [if_neg hfits]
      rfl

theorem fitting_eq (values : ValueName → Option (List UInt8)) (name : ValueName)
    (v : DefaultsVar) : fitting values name v = (query values name v.size).data :=
  (data_query values name v.size).symm

theorem fitting_eq_some {values : ValueName → Option (List UInt8)} {name : ValueName}
    {v : DefaultsVar} {data : List UInt8} :
    fitting values name v = some data ↔ values name = some data ∧ data.length ≤ v.size := by
  rw [fitting_eq]
  exact data_query_eq_some

/-! ## What a variable holds -/

theorem fill_zeros (v : DefaultsVar) (data : List UInt8) (h : data.length ≤ v.size) :
    fill v.zeros data = data ++ List.replicate (v.size - data.length) 0 := by
  have hlen : v.zeros.length = v.size := List.length_replicate
  rw [fill_of_le v.zeros data (by omega), DefaultsVar.zeros, List.drop_replicate]

theorem ofLE_fill_zeros (v : DefaultsVar) (data : List UInt8) (h : data.length ≤ v.size) :
    ofLE (fill v.zeros data) = ofLE data := by
  rw [fill_zeros v data h, ofLE_append_zeros]

theorem cString_append_zeros (b : List UInt8) (k : Nat) :
    cString (b ++ List.replicate k 0) = cString b := by
  by_cases h : 0 ∈ b
  · exact cString_append_of_mem b _ h
  · rw [cString_eq b h]
    unfold cString
    have hall : ∀ c ∈ b, (c != 0) = true := by
      intro c hc
      rw [bne_iff_ne]
      rintro rfl
      exact h hc
    rw [List.takeWhile_append_of_pos hall]
    cases k with
    | zero => simp
    | succ k => simp [List.replicate_succ]

/-- A text that ends in its variable is the text of the value. -/
theorem cString_fill_zeros (v : DefaultsVar) (data behind : List UInt8) (h : data.length ≤ v.size)
    (hend : 0 ∈ fill v.zeros data) : cString (fill v.zeros data ++ behind) = cString data := by
  rw [cString_append_of_mem _ _ hend, fill_zeros v data h, cString_append_zeros]

theorem mem_fill_zeros (v : DefaultsVar) (data : List UInt8) (h : data.length ≤ v.size) :
    0 ∈ fill v.zeros data ↔ (data.length = v.size → 0 ∈ data) := by
  rw [fill_zeros v data h, List.mem_append, List.mem_replicate]
  constructor
  · rintro (hmem | ⟨hne, -⟩) hfull
    · exact hmem
    · omega
  · intro himp
    by_cases hfull : data.length = v.size
    · exact Or.inl (himp hfull)
    · exact Or.inr ⟨by omega, rfl⟩

/-! ## Two sizes for one value -/

theorem query_eq_of_iff (values : ValueName → Option (List UInt8)) (name : ValueName)
    (size size' : Nat)
    (h : ∀ data, values name = some data → (data.length ≤ size ↔ data.length ≤ size')) :
    (query values name size).data = (query values name size').data := by
  refine Option.ext fun data => ?_
  rw [data_query_eq_some, data_query_eq_some]
  constructor
  · rintro ⟨hdata, hle⟩
    exact ⟨hdata, (h data hdata).1 hle⟩
  · rintro ⟨hdata, hle⟩
    exact ⟨hdata, (h data hdata).2 hle⟩

/-- A size at which as much is taken decides as the other does. -/
theorem taken_eq_iff (values : ValueName → Option (List UInt8)) (name : ValueName)
    (size size' : Nat) :
    (query values name size).data.toList.length = (query values name size').data.toList.length ↔
      ∀ data, values name = some data → (data.length ≤ size ↔ data.length ≤ size') := by
  constructor
  · intro hlen data hdata
    unfold query at hlen
    rw [hdata] at hlen
    by_cases hle : data.length ≤ size
    · by_cases hle' : data.length ≤ size'
      · exact iff_of_true hle hle'
      · simp [hle, hle', Answer.data] at hlen
    · by_cases hle' : data.length ≤ size'
      · simp [hle, hle', Answer.data] at hlen
      · exact iff_of_false hle hle'
  · intro h
    rw [query_eq_of_iff values name size size' h]

/-! ## Main result -/

/-- With the key open, in terms of what was taken. -/
theorem getDefaults_open (settings : Settings) (behind : List UInt8) (defaultPort : UInt32)
    (values : ValueName → Option (List UInt8)) (hkey : settings.key .v0404 = some values) :
    (getDefaults settings behind defaultPort).defaults =
      { defaultHost := match fitting values .defaultHost .host with
          | some data => cString (fill DefaultsVar.host.zeros data ++ behind)
          | none => utf8 "127.0.0.1"
        defaultPort := (wantedDefaults settings).1.defaultPort
        cannelloniVersion :=
          match (query values .cannelloniDataVersion (sizeForVersion settings values)).data with
          | some data => UInt8.ofNat (ofLE (fill DefaultsVar.version.zeros data))
          | none => 1 } ∧
    (getDefaults settings behind defaultPort).retc =
      (fitting values .defaultHost .host).toList.length +
        (fitting values .defaultPort .port).toList.length +
        (query values .cannelloniDataVersion (sizeForVersion settings values)).data.toList.length := by
  have hport : (match fitting values .defaultPort .port with
      | some data => UInt32.ofNat (ofLE (fill DefaultsVar.port.zeros data))
      | none => 20000) = (wantedDefaults settings).1.defaultPort := by
    simp only [wantedDefaults, hkey, Option.getD_some]
    cases hfit : fitting values .defaultPort .port with
    | none => rfl
    | some data =>
      show UInt32.ofNat (ofLE (fill DefaultsVar.port.zeros data)) = UInt32.ofNat (ofLE data)
      rw [ofLE_fill_zeros .port data (fitting_eq_some.1 hfit).2]
  rw [← hport, fitting_eq, fitting_eq, ← size_portAnswer]
  simp only [getDefaults, hkey, and_self]

theorem mem_queried {values : ValueName → Option (List UInt8)} {name : ValueName} {size : Nat}
    {data : List UInt8} : data ∈ (query values name size).data.toList ↔
      values name = some data ∧ data.length ≤ size := by
  rw [Option.mem_toList]
  exact data_query_eq_some

theorem within_defaults_iff (settings : Settings) (behind : List UInt8) (defaultPort : UInt32)
    (values : ValueName → Option (List UInt8)) (hkey : settings.key .v0404 = some values) :
    (getDefaults settings behind defaultPort).Within ↔
      (∀ data, values .defaultHost = some data → data.length = maxPath → 0 ∈ data) ∧
      ∀ data, values .cannelloniDataVersion = some data →
        data.length ≤ sizeForVersion settings values → data.length ≤ DefaultsVar.version.size := by
  have hwrites : (getDefaults settings behind defaultPort).writes =
      (query values .defaultHost DefaultsVar.host.size).data.toList.map (Prod.mk .host) ++
        (query values .defaultPort DefaultsVar.port.size).data.toList.map (Prod.mk .port) ++
        (query values .cannelloniDataVersion (sizeForVersion settings values)).data.toList.map
          (Prod.mk .version) := by
    rw [← size_portAnswer]
    simp only [getDefaults, hkey]
  have hscanned : (getDefaults settings behind defaultPort).scanned =
      (query values .defaultHost DefaultsVar.host.size).data.toList.map
        (fill DefaultsVar.host.zeros) := by
    simp only [getDefaults, hkey]
  constructor
  · rintro ⟨hin, hends⟩
    rw [hwrites] at hin
    rw [hscanned] at hends
    refine ⟨fun data hdata hfull => ?_, fun data hdata hfits => ?_⟩
    · have hle : data.length ≤ DefaultsVar.host.size := Nat.le_of_eq hfull
      refine (mem_fill_zeros .host data hle).1 (hends _ ?_) hfull
      exact List.mem_map_of_mem (mem_queried.2 ⟨hdata, hle⟩)
    · refine hin (.version, data) (List.mem_append_right _ ?_)
      exact List.mem_map_of_mem (mem_queried.2 ⟨hdata, hfits⟩)
  · rintro ⟨hhost, hversion⟩
    constructor
    · rw [hwrites]
      intro w hw
      simp only [List.mem_append, List.mem_map, mem_queried] at hw
      rcases hw with (⟨data, ⟨-, hle⟩, rfl⟩ | ⟨data, ⟨-, hle⟩, rfl⟩) | ⟨data, ⟨hdata, hle⟩, rfl⟩
      · exact hle
      · exact hle
      · exact hversion data hdata hle
    · rw [hscanned]
      intro buffer hbuffer
      simp only [List.mem_map, mem_queried] at hbuffer
      obtain ⟨data, ⟨hdata, hle⟩, rfl⟩ := hbuffer
      exact (mem_fill_zeros .host data hle).2 (hhost data hdata)

/-- **The defaults.**  Each value is read by itself, into its own variable, exactly where the
key opens, a host of 260 bytes has a NUL among them, and the version is too long for its 4
bytes just when it is too long for the size that the port left. -/
theorem getDefaults_eq_wanted_iff (settings : Settings) (behind : List UInt8)
    (defaultPort : UInt32) :
    ((getDefaults settings behind defaultPort).defaults,
        (getDefaults settings behind defaultPort).retc) = wantedDefaults settings ∧
      (getDefaults settings behind defaultPort).Within ↔
    ∃ values, settings.key .v0404 = some values ∧
      (∀ data, values .defaultHost = some data → data.length = maxPath → 0 ∈ data) ∧
      ∀ data, values .cannelloniDataVersion = some data →
        (data.length ≤ DefaultsVar.version.size ↔
          data.length ≤ sizeForVersion settings values) := by
  cases hkey : settings.key .v0404 with
  | none =>
    refine iff_of_false ?_ (by simp)
    rintro ⟨heq, -⟩
    have hhost : utf8 "127.0.0.1" = [] := by
      have hhost := congrArg (fun d => d.1.defaultHost) heq
      simpa [getDefaults, wantedDefaults, hkey, fitting] using hhost.symm
    exact absurd hhost (by decide)
  | some values =>
    obtain ⟨hdefaults, hretc⟩ := getDefaults_open settings behind defaultPort values hkey
    have hwanted : (wantedDefaults settings).2 =
        (fitting values .defaultHost .host).toList.length +
          (fitting values .defaultPort .port).toList.length +
          (query values .cannelloniDataVersion DefaultsVar.version.size).data.toList.length := by
      simp only [wantedDefaults, hkey, Option.getD_some]
      rw [fitting_eq values .cannelloniDataVersion]
    rw [within_defaults_iff settings behind defaultPort values hkey]
    constructor
    · rintro ⟨heq, hhost, -⟩
      refine ⟨values, rfl, hhost, (taken_eq_iff values _ _ _).1 ?_⟩
      have hcount := congrArg Prod.snd heq
      simp only [hretc, hwanted] at hcount
      omega
    · rintro ⟨values', hvalues, hhost, hversion⟩
      obtain rfl : values = values' := Option.some.inj hvalues
      refine ⟨?_, hhost, fun data hdata => (hversion data hdata).2⟩
      have htaken := query_eq_of_iff values .cannelloniDataVersion _ _ hversion
      rw [hdefaults, hretc, ← htaken]
      refine Prod.ext (Defaults.ext ?_ rfl ?_) hwanted.symm
      · simp only [wantedDefaults, hkey, Option.getD_some]
        cases hfit : fitting values .defaultHost .host with
        | none => rfl
        | some data =>
          obtain ⟨hdata, hle⟩ := fitting_eq_some.1 hfit
          exact cString_fill_zeros .host data behind hle
            ((mem_fill_zeros .host data hle).2 (hhost data hdata))
      · simp only [wantedDefaults, hkey, Option.getD_some]
        rw [← fitting_eq values .cannelloniDataVersion]
        cases hfit : fitting values .cannelloniDataVersion .version with
        | none => rfl
        | some data =>
          show UInt8.ofNat _ = UInt8.ofNat _
          rw [ofLE_fill_zeros .version data (fitting_eq_some.1 hfit).2]

end J2534Oip
