import J2534Oip.ProgramMemory

/-!
# `PassThruIoctl` in the memory of a program

The loops over parameter lists read the number of entries and the pointer to them anew in
each pass, and fill entries as they go.  Where a list is apart from its own entries each
entry becomes what the loops on lists make of it, and nothing else changes:

    (sParamListAt (c.after writes) a).sParamPtr i =
      (getDeviceInfo (sParamListAt c.mem a)).sParamPtr i                        (ioctl_lists)
-/

namespace J2534Oip

open Bytes Stores

/-! ## Calls -/

/-- A call as it finds the process. -/
structure Invocation where
  args : List UInt32
  mem : Memory
  /-- what `LocalAlloc` returns, in order -/
  localAlloc : Nat → UInt32

def Invocation.arg (c : Invocation) (i : Nat) : UInt32 := c.args.getD i 0

/-- The memory after some writes. -/
def Invocation.after (c : Invocation) (writes : List MemWrite) : Memory :=
  storeAll nextAddr c.mem writes

namespace IoctlID

def getConfig : UInt32 := 0x01

def setConfig : UInt32 := 0x02

def readVbatt : UInt32 := 0x03

def readProgVoltage : UInt32 := 0x0E

def getDeviceInfo : UInt32 := 0x800C

def readPinVoltage : UInt32 := 0x800E

end IoctlID

/-- `SCONFIG` -/
structure SConfig where
  parameter : UInt32
  value : UInt32
deriving DecidableEq

/-- An `SCONFIG` in memory. -/
def sConfigAt (m : Memory) (a : UInt32) : SConfig :=
  { parameter := m.long a, value := m.long (a + 4) }

theorem sConfigAt_congr (m m' : Memory) (a : UInt32)
    (h : ∀ x, Region nextAddr a 8 x → m' x = m x) : sConfigAt m' a = sConfigAt m a := by
  have hvalue : m'.long (a + 4) = m.long (a + 4) :=
    long_congr m m' _ fun x hx => h x (region_offset (j := 4) hx (by omega))
  unfold sConfigAt
  rw [long_congr m m' a fun x hx => h x (hx.mono (by omega)), hvalue]

/-- `ConfigParamId::DATA_RATE` -/
def dataRate : UInt32 := 0x01

namespace J2534CannelloniClient

/-! ## The loops -/

/-- Where entry `i` of a list is, read anew; `none` when a NULL pointer is dereferenced. -/
def entryAddr (size : Nat) (list : UInt32) (i : Nat) (mem : Memory) : Option UInt32 :=
  let ptr := mem.long (list + 4)
  if ptr = 0 then none else some (ptr + UInt32.ofNat (size * i))

/-- What a pass writes, in view of where its entry is in a memory. -/
abbrev Pass := (Memory → Option UInt32) → Memory → Option (List MemWrite)

/-- The loop over a list of entries of `size` bytes, from entry `i` on.  Number and pointer
are read anew in each pass. -/
def listLoop (size : Nat) (pass : Pass) (list : UInt32) :
    Nat → Nat → Memory → Option (List MemWrite)
  -- not reached: a number is less than 2^32
  | 0, _, _ => none
  | fuel + 1, i, mem =>
    if i < (mem.long list).toNat then
      (pass (entryAddr size list i) mem).bind fun writes =>
        (listLoop size pass list fuel (i + 1) (storeAll nextAddr mem writes)).map (writes ++ ·)
    else some []

/-- A pass that writes once at most finds its entry in one place. -/
def atEntry (writes : Memory → UInt32 → List MemWrite) : Pass :=
  fun entry mem => (entry mem).map (writes mem)

/-- The `switch` of `GET_DEVICE_INFO`; for `SERIAL_NUMBER` the pointer is read again between
the two writes. -/
def sParamPass : Pass := fun entry mem => do
  let p ← entry mem
  if mem.long p = serialNumber then
    let supported := writeLong (p + 8) 1
    let p ← entry (storeAll nextAddr mem [supported])
    some [supported, writeLong (p + 4) 987654321]
  else if mem.long p = canSupported then some [writeLong (p + 8) 1]
  else if mem.long p = shortToGndJ1962 then
    some (if mem.long (p + 4) = 0 then [writeLong (p + 8) 1] else [])
  else if mem.long p = pgmVoltageJ1962 then some [writeLong (p + 8) 1]
  else some []

/-- `data_rate` -/
def dataRateOf (channelID : UInt32) : UInt32 := if channelID = 20000 then 125000 else 500000

/-- The `switch` of `GET_CONFIG` on the entry at `p`; the other cases print. -/
def sConfigPass (channelID : UInt32) (mem : Memory) (p : UInt32) : List MemWrite :=
  if mem.long p = dataRate then [writeLong (p + 4) (dataRateOf channelID)] else []

/-- `READ_PIN_VOLTAGE`; the pin is only printed. -/
def pinVoltage (c : Invocation) : UInt32 := if c.arg 2 = 0 then 0 else 5000

/-- `PassThruIoctl(ChannelID, IoctlID, pInput, pOutput)`: what it writes; `none` when a NULL
pointer is dereferenced. -/
def passThruIoctl (c : Invocation) : Option (List MemWrite) :=
  let voltage := fun n => if c.arg 3 = 0 then none else some [writeLong (c.arg 3) n]
  if c.arg 1 = IoctlID.readVbatt then voltage 12800
  else if c.arg 1 = IoctlID.readProgVoltage then voltage 5200
  else if c.arg 1 = IoctlID.readPinVoltage then voltage (pinVoltage c)
  else if c.arg 1 = IoctlID.setConfig then
    -- the entries are printed
    if c.arg 2 = 0 then some []
    else listLoop 8 (atEntry fun _ _ => []) (c.arg 2) (2 ^ 32) 0 c.mem
  else if c.arg 1 = IoctlID.getDeviceInfo then
    if c.arg 3 = 0 then none else listLoop 12 sParamPass (c.arg 3) (2 ^ 32) 0 c.mem
  else if c.arg 1 = IoctlID.getConfig then
    if c.arg 2 = 0 then some []
    else listLoop 8 (atEntry (sConfigPass (c.arg 0))) (c.arg 2) (2 ^ 32) 0 c.mem
  else some []

/-! ## A pass stays in its entry -/

/-- What `GET_DEVICE_INFO` writes to an entry that stays where it is. -/
def sParamWrites (mem : Memory) (p : UInt32) : List MemWrite :=
  if mem.long p = serialNumber then [writeLong (p + 8) 1, writeLong (p + 4) 987654321]
  else if mem.long p = canSupported then [writeLong (p + 8) 1]
  else if mem.long p = shortToGndJ1962 then
    if mem.long (p + 4) = 0 then [writeLong (p + 8) 1] else []
  else if mem.long p = pgmVoltageJ1962 then [writeLong (p + 8) 1]
  else []

/-- Where no write to the entry moves it, a pass makes these writes, in the entry. -/
structure ListPass (size : Nat) (pass : Pass) (writes : Memory → UInt32 → List MemWrite) :
    Prop where
  entry : EntryPass nextAddr size writes
  anew : ∀ (entry : Memory → Option UInt32) (m : Memory) (p : UInt32),
    (∀ m' : Memory, (∀ x, ¬Region nextAddr p size x → m' x = m x) → entry m' = some p) →
      pass entry m = some (writes m p)

theorem anew_atEntry (size : Nat) (writes : Memory → UInt32 → List MemWrite)
    (entry : Memory → Option UInt32) (m : Memory) (p : UInt32)
    (h : ∀ m' : Memory, (∀ x, ¬Region nextAddr p size x → m' x = m x) → entry m' = some p) :
    atEntry writes entry m = some (writes m p) := by
  rw [atEntry, h m fun _ _ => rfl]
  rfl

theorem listPass_sParam : ListPass 12 sParamPass sParamWrites where
  entry := by
    constructor
    · intro m p w hw
      have hvalue : (writeLong (p + 4) 987654321).Within nextAddr (Region nextAddr p 12) :=
        writeLong_within (j := 4) (by omega)
      unfold sParamWrites at hw
      split_ifs at hw with hserial hcan hgnd hzero hpgm
      · rcases List.mem_pair.1 hw with rfl | rfl
        · exact supported_within p
        · exact hvalue
      · exact List.mem_singleton.1 hw ▸ supported_within p
      · exact List.mem_singleton.1 hw ▸ supported_within p
      · cases hw
      · exact List.mem_singleton.1 hw ▸ supported_within p
      · cases hw
    · intro (m : Memory) (m' : Memory) p h
      have hparam := sParamAt_congr m m' p h
      have hparameter : m'.long p = m.long p := congrArg SParam.parameter hparam
      have hvalue : m'.long (p + 4) = m.long (p + 4) := congrArg SParam.value hparam
      unfold sParamWrites
      rw [hparameter, hvalue]
  anew := by
    intro entry m p h
    have hagain : entry (storeAll nextAddr m [writeLong (p + 8) 1]) = some p := by
      refine h _ fun x hx => storeAll_frame m _ x fun w hw hcovers => hx ?_
      obtain rfl := List.mem_singleton.1 hw
      exact supported_within p x hcovers
    unfold sParamPass sParamWrites
    rw [h m fun _ _ => rfl, Option.bind_eq_bind, Option.bind_some]
    dsimp only
    rw [hagain]
    split_ifs <;> rfl

theorem listPass_sConfig (channelID : UInt32) :
    ListPass 8 (atEntry (sConfigPass channelID)) (sConfigPass channelID) where
  entry := by
    constructor
    · intro m p w hw
      unfold sConfigPass at hw
      split_ifs at hw with hrate
      · obtain rfl := List.mem_singleton.1 hw
        exact writeLong_within (j := 4) (by omega)
      · cases hw
    · intro (m : Memory) (m' : Memory) p h
      have hparameter : m'.long p = m.long p :=
        long_congr m m' p fun x hx => h x (hx.mono (by omega))
      unfold sConfigPass
      rw [hparameter]
  anew := anew_atEntry 8 _

/-- A pass does to an entry in memory what it does to that of a list. -/
theorem sParamAt_pass (m : Memory) (p : UInt32) :
    sParamAt (storeAll nextAddr m (sParamWrites m p)) p = fillParam (sParamAt m p) := by
  have hsupported : sParamAt (storeAll nextAddr m [writeLong (p + 8) 1]) p =
      { sParamAt m p with supported := 1 } := sParamAt_supported m p 1
  unfold sParamWrites fillParam
  show _ = if m.long p = serialNumber then _ else if m.long p = canSupported then _ else
    if m.long p = shortToGndJ1962 then (if m.long (p + 4) = 0 then _ else _) else
    if m.long p = pgmVoltageJ1962 then _ else _
  split_ifs with hserial hcan hgnd hzero hpgm
  · show sParamAt (storeLong (storeLong m (p + 8) 1) (p + 4) 987654321) p = _
    rw [sParamAt_value, sParamAt_supported]
  · exact hsupported
  · exact hsupported
  · rfl
  · exact hsupported
  · rfl

/-- What `GET_CONFIG` makes of an entry. -/
def fillConfig (channelID : UInt32) (p : SConfig) : SConfig :=
  if p.parameter = dataRate then { p with value := dataRateOf channelID } else p

theorem sConfigAt_pass (channelID : UInt32) (m : Memory) (p : UInt32) :
    sConfigAt (storeAll nextAddr m (sConfigPass channelID m p)) p =
      fillConfig channelID (sConfigAt m p) := by
  unfold sConfigPass fillConfig
  show _ = if m.long p = dataRate then _ else _
  split_ifs with hrate
  · have hparameter : (storeLong m (p + 4) (dataRateOf channelID)).long p = m.long p :=
      long_storeLong_of_apart _ _ _ _ fun x hx =>
        apart_four p 0 4 (by omega) (by omega) x (by simpa using hx)
    show sConfigAt (storeLong m (p + 4) (dataRateOf channelID)) p = _
    unfold sConfigAt
    rw [hparameter, long_storeLong]
  · rfl

/-! ## A whole loop -/

/-- The list at `list` is not among its own entries, and has some if it is said to. -/
structure ListApart (size : Nat) (list : UInt32) (m : Memory) : Prop where
  apart : ∀ x, Region nextAddr list 8 x →
    ¬Region nextAddr (m.long (list + 4)) (size * (m.long list).toNat) x
  entries : (m.long list).toNat ≠ 0 → m.long (list + 4) ≠ 0

/-- Where the entries of a list are. -/
def entriesAt (size : Nat) (list : UInt32) (m : Memory) : List UInt32 :=
  (List.range (m.long list).toNat).map fun i => m.long (list + 4) + UInt32.ofNat (size * i)

section
variable {size : Nat} {list : UInt32} {m : Memory}

theorem mem_entriesAt {p : UInt32} : p ∈ entriesAt size list m ↔
    ∃ i < (m.long list).toNat, m.long (list + 4) + UInt32.ofNat (size * i) = p := by
  simp [entriesAt]

theorem region_entry {p x : UInt32} (hp : p ∈ entriesAt size list m)
    (hx : Region nextAddr p size x) :
    Region nextAddr (m.long (list + 4)) (size * (m.long list).toNat) x := by
  obtain ⟨i, hi, rfl⟩ := mem_entriesAt.1 hp
  refine region_offset hx ?_
  calc size * i + size = size * (i + 1) := (Nat.mul_succ size i).symm
    _ ≤ size * (m.long list).toNat := Nat.mul_le_mul_left size hi

/-- Entries do not overlap: with their list they fit the memory. -/
theorem entriesAt_pairwise (h : ListApart size list m) :
    (entriesAt size list m).Pairwise
      fun p p' => ∀ x, Region nextAddr p size x → ¬Region nextAddr p' size x := by
  have hfits : size * (m.long list).toNat < 2 ^ 32 :=
    lt_of_not_region (h.apart list ⟨0, by omega, rfl⟩)
  have hend : ∀ i < (m.long list).toNat, size * i + size ≤ size * (m.long list).toNat := by
    intro i hi
    rw [← Nat.mul_succ]
    exact Nat.mul_le_mul_left size hi
  refine List.pairwise_map.2 (List.pairwise_lt_range.imp_of_mem ?_)
  intro i j hi hj hij x hx hx'
  have hstep : size * i + size ≤ size * j := by
    rw [← Nat.mul_succ]
    exact Nat.mul_le_mul_left size hij
  have hjend := hend j (List.mem_range.1 hj)
  obtain ⟨a, ha, rfl⟩ := (region_iff _ _ _).1 hx
  obtain ⟨b, hb, heq⟩ := (region_iff _ _ _).1 hx'
  rw [UInt32.add_assoc, UInt32.add_assoc, UInt32.add_right_inj, ← UInt32.ofNat_add,
    ← UInt32.ofNat_add, ← UInt32.toNat_inj, UInt32.toNat_ofNat', UInt32.toNat_ofNat'] at heq
  omega

/-- What does not touch the list leaves number and pointer. -/
theorem header_congr {m m' : Memory} (h : ∀ x, Region nextAddr list 8 x → m' x = m x) :
    m'.long list = m.long list ∧ m'.long (list + 4) = m.long (list + 4) :=
  ⟨long_congr m m' _ fun x hx => h x (hx.mono (by omega)),
    long_congr m m' _ fun x hx => h x (region_offset (j := 4) hx (by omega))⟩

variable {pass : Pass} {writes : Memory → UInt32 → List MemWrite}

/-- An entry stays where it is while nothing but it changes. -/
theorem entryAddr_anew (h : ListApart size list m) {i : Nat} (hi : i < (m.long list).toNat)
    {mem mem' : Memory} (hmem : ∀ x, Region nextAddr list 8 x → mem x = m x)
    (hsame : ∀ x, ¬Region nextAddr (m.long (list + 4) + UInt32.ofNat (size * i)) size x →
      mem' x = mem x) :
    entryAddr size list i mem' = some (m.long (list + 4) + UInt32.ofNat (size * i)) := by
  have hentry : m.long (list + 4) + UInt32.ofNat (size * i) ∈ entriesAt size list m :=
    mem_entriesAt.2 ⟨i, hi, rfl⟩
  have hheader : ∀ x, Region nextAddr list 8 x → mem' x = m x := by
    intro x hx
    rw [hsame x fun hx' => h.apart x hx (region_entry hentry hx')]
    exact hmem x hx
  obtain ⟨-, hptr⟩ := header_congr hheader
  unfold entryAddr
  rw [hptr]
  exact if_neg (h.entries (by omega))

/-- With `k` passes to go the loop does these, on the entries that are left. -/
theorem listLoop_eq (hpass : ListPass size pass writes) (h : ListApart size list m)
    (k fuel i : Nat) (mem : Memory) (hk : i + k = (m.long list).toNat) (hfuel : k < fuel)
    (hmem : ∀ x, Region nextAddr list 8 x → mem x = m x) :
    listLoop size pass list fuel i mem =
      some (passes nextAddr writes mem ((entriesAt size list m).drop i)) := by
  induction k generalizing fuel i mem with
  | zero =>
    obtain ⟨fuel, rfl⟩ : ∃ n, fuel = n + 1 := ⟨fuel - 1, by omega⟩
    obtain ⟨hnum, -⟩ := header_congr hmem
    have hdrop : (entriesAt size list m).drop i = [] := by
      rw [List.drop_eq_nil_iff, entriesAt, List.length_map, List.length_range]
      omega
    rw [listLoop, hnum, if_neg (by omega), hdrop]
    rfl
  | succ k ih =>
    obtain ⟨fuel, rfl⟩ : ∃ n, fuel = n + 1 := ⟨fuel - 1, by omega⟩
    obtain ⟨hnum, -⟩ := header_congr hmem
    have hi : i < (m.long list).toNat := by omega
    have hlen : i < (entriesAt size list m).length := by simpa [entriesAt] using hi
    have hentry : (entriesAt size list m)[i] = m.long (list + 4) + UInt32.ofNat (size * i) := by
      simp [entriesAt]
    have hwrites : pass (entryAddr size list i) mem =
        some (writes mem (entriesAt size list m)[i]) := by
      rw [hentry]
      exact hpass.anew _ _ _ fun mem' hsame => entryAddr_anew h hi hmem hsame
    -- the pass leaves the list alone
    have hkeeps : ∀ x, Region nextAddr list 8 x →
        storeAll nextAddr mem (writes mem (entriesAt size list m)[i]) x = m x := by
      intro x hx
      rw [← hmem x hx]
      refine storeAll_frame mem _ x fun w hw hcovers => h.apart x hx ?_
      exact region_entry (List.getElem_mem hlen) (hpass.entry.within mem _ w hw x hcovers)
    rw [listLoop, hnum, if_pos hi, hwrites, Option.bind_some,
      ih fuel (i + 1) _ (by omega) (by omega) hkeeps, List.drop_eq_getElem_cons hlen]
    rfl

/-- **A loop over a list** fills each entry as its pass alone would, and nothing else. -/
theorem listLoop_spec (hpass : ListPass size pass writes) (h : ListApart size list m) :
    ∃ ws, listLoop size pass list (2 ^ 32) 0 m = some ws ∧
      (∀ w ∈ ws, w.Within nextAddr
        (Region nextAddr (m.long (list + 4)) (size * (m.long list).toNat))) ∧
      ∀ i < (m.long list).toNat, ∀ x,
        Region nextAddr (m.long (list + 4) + UInt32.ofNat (size * i)) size x →
        storeAll nextAddr m ws x =
          storeAll nextAddr m (writes m (m.long (list + 4) + UInt32.ofNat (size * i))) x := by
  refine ⟨_, listLoop_eq hpass h (m.long list).toNat _ 0 m (by omega)
    (m.long list).toNat_lt fun _ _ => rfl, fun w hw x hx => ?_, fun i hi x hx => ?_⟩
  · obtain ⟨p, hp, hwithin⟩ := passes_within hpass.entry m _ w hw
    exact region_entry hp (hwithin x hx)
  · exact passes_entry hpass.entry m _ (entriesAt_pairwise h) _ (mem_entriesAt.2 ⟨i, hi, rfl⟩)
      x hx

end

/-- In memory `GET_DEVICE_INFO` is what it is on lists. -/
theorem sParam_listLoop {list : UInt32} {m : Memory} (h : ListApart 12 list m)
    {writes : List MemWrite} (hwrites : listLoop 12 sParamPass list (2 ^ 32) 0 m = some writes)
    (i : Nat) (hi : i < (m.long list).toNat) :
    sParamAt (storeAll nextAddr m writes) (m.long (list + 4) + UInt32.ofNat (12 * i)) =
      fillParam (sParamAt m (m.long (list + 4) + UInt32.ofNat (12 * i))) := by
  obtain ⟨writes', hwrites', -, hentry⟩ := listLoop_spec listPass_sParam h
  obtain rfl : writes = writes' := Option.some.inj (hwrites.symm.trans hwrites')
  rw [sParamAt_congr _ _ _ (hentry i hi)]
  exact sParamAt_pass m _

theorem sConfig_listLoop {channelID list : UInt32} {m : Memory} (h : ListApart 8 list m)
    {writes : List MemWrite}
    (hwrites : listLoop 8 (atEntry (sConfigPass channelID)) list (2 ^ 32) 0 m = some writes) (i : Nat)
    (hi : i < (m.long list).toNat) :
    sConfigAt (storeAll nextAddr m writes) (m.long (list + 4) + UInt32.ofNat (8 * i)) =
      fillConfig channelID (sConfigAt m (m.long (list + 4) + UInt32.ofNat (8 * i))) := by
  obtain ⟨writes', hwrites', -, hentry⟩ := listLoop_spec (listPass_sConfig channelID) h
  obtain rfl : writes = writes' := Option.some.inj (hwrites.symm.trans hwrites')
  rw [sConfigAt_congr _ _ _ (hentry i hi)]
  exact sConfigAt_pass channelID m _

/-! ## Main result -/

/-- What a loop over a list leaves of the rest of the memory. -/
theorem listLoop_frame {size : Nat} {list : UInt32} {m : Memory}
    {pass : Pass} {writes : Memory → UInt32 → List MemWrite} (hpass : ListPass size pass writes)
    (h : ListApart size list m) {ws : List MemWrite}
    (hws : listLoop size pass list (2 ^ 32) 0 m = some ws) :
    ∀ w ∈ ws, w.Within nextAddr
      (Region nextAddr (m.long (list + 4)) (size * (m.long list).toNat)) := by
  obtain ⟨ws', hws', hwithin, -⟩ := listLoop_spec hpass h
  obtain rfl : ws = ws' := Option.some.inj (hws.symm.trans hws')
  exact hwithin

theorem passThruIoctl_deviceInfo (c : Invocation) (hid : c.arg 1 = IoctlID.getDeviceInfo)
    (hlist : c.arg 3 ≠ 0) :
    passThruIoctl c = listLoop 12 sParamPass (c.arg 3) (2 ^ 32) 0 c.mem := by
  unfold passThruIoctl
  rw [hid, if_neg (by decide), if_neg (by decide), if_neg (by decide), if_neg (by decide),
    if_pos rfl, if_neg hlist]

theorem passThruIoctl_config (c : Invocation) (hid : c.arg 1 = IoctlID.getConfig)
    (hlist : c.arg 2 ≠ 0) :
    passThruIoctl c = listLoop 8 (atEntry (sConfigPass (c.arg 0))) (c.arg 2) (2 ^ 32) 0 c.mem := by
  unfold passThruIoctl
  rw [hid, if_neg (by decide), if_neg (by decide), if_neg (by decide), if_neg (by decide),
    if_neg (by decide), if_pos rfl, if_neg hlist]

/-- **Lists in memory.**  A call with a list that is apart from its entries comes back, changes
nothing but these, and leaves each as the loop on lists leaves it: for `GET_CONFIG` with the
channel's rate at every `DATA_RATE`. -/
theorem ioctl_lists (c : Invocation) :
    (c.arg 1 = IoctlID.getDeviceInfo → c.arg 3 ≠ 0 → ListApart 12 (c.arg 3) c.mem →
      ∃ writes, passThruIoctl c = some writes ∧
        (∀ i < (sParamListAt c.mem (c.arg 3)).numOfParameters,
          (sParamListAt (c.after writes) (c.arg 3)).sParamPtr i =
            (getDeviceInfo (sParamListAt c.mem (c.arg 3))).sParamPtr i) ∧
        ∀ x, ¬Region nextAddr (c.mem.long (c.arg 3 + 4))
          (12 * (sParamListAt c.mem (c.arg 3)).numOfParameters) x → c.after writes x = c.mem x) ∧
    (c.arg 1 = IoctlID.getConfig → c.arg 2 ≠ 0 → ListApart 8 (c.arg 2) c.mem →
      ∃ writes, passThruIoctl c = some writes ∧
        (∀ p ∈ entriesAt 8 (c.arg 2) c.mem,
          sConfigAt (c.after writes) p = fillConfig (c.arg 0) (sConfigAt c.mem p)) ∧
        ∀ x, ¬Region nextAddr (c.mem.long (c.arg 2 + 4)) (8 * (c.mem.long (c.arg 2)).toNat) x →
          c.after writes x = c.mem x) := by
  constructor
  · intro hid hlist hapart
    obtain ⟨writes, hwrites, hwithin, -⟩ := listLoop_spec listPass_sParam hapart
    have hframe : ∀ x, ¬Region nextAddr (c.mem.long (c.arg 3 + 4))
        (12 * (c.mem.long (c.arg 3)).toNat) x → c.after writes x = c.mem x :=
      fun x hx => storeAll_frame _ _ x fun w hw hcovers => hx (hwithin w hw x hcovers)
    refine ⟨writes, (passThruIoctl_deviceInfo c hid hlist).trans hwrites, fun i hi => ?_, hframe⟩
    obtain ⟨-, hptr⟩ := header_congr fun x hx => hframe x (hapart.apart x hx)
    rw [getDeviceInfo_entry _ i hi]
    show sParamAt (c.after writes) ((c.after writes).long (c.arg 3 + 4) + _) = _
    rw [hptr]
    exact sParam_listLoop hapart hwrites i hi
  · intro hid hlist hapart
    obtain ⟨writes, hwrites, hwithin, -⟩ := listLoop_spec (listPass_sConfig (c.arg 0)) hapart
    refine ⟨writes, (passThruIoctl_config c hid hlist).trans hwrites, fun p hp => ?_,
      fun x hx => storeAll_frame _ _ x fun w hw hcovers => hx (hwithin w hw x hcovers)⟩
    obtain ⟨i, hi, rfl⟩ := mem_entriesAt.1 hp
    exact sConfig_listLoop hapart hwrites i hi

/-- A list of two at address 100: a `SERIAL_NUMBER`, and an id that is not known. -/
def twoParams : Invocation where
  args := [20000, IoctlID.getDeviceInfo, 0, 100]
  mem := storeAll nextAddr (fun _ => 0)
    [writeLong 100 2, writeLong 104 200, writeLong 200 1, writeLong 212 0x11]
  localAlloc := fun _ => 0

/-- The serial number is filled in, the other entry is as it was. -/
theorem ioctl_lists_two : ∃ writes, passThruIoctl twoParams = some writes ∧
    sParamAt (twoParams.after writes) 200 = ⟨1, 987654321, 1⟩ ∧
    sParamAt (twoParams.after writes) 212 = ⟨0x11, 0, 0⟩ := by
  have hnum : twoParams.mem.long 100 = 2 := by decide +kernel
  have hptr : twoParams.mem.long 104 = 200 := by decide +kernel
  have hapart : ListApart 12 (twoParams.arg 3) twoParams.mem := by
    refine ⟨fun x hx hx' => ?_, fun _ => ?_⟩
    · show False
      change Region nextAddr (twoParams.mem.long 104) (12 * (twoParams.mem.long 100).toNat) x at hx'
      rw [hnum, hptr] at hx'
      obtain ⟨j, hj, rfl⟩ := (region_iff 100 8 x).1 hx
      obtain ⟨k, hk, heq⟩ := (region_iff 200 _ _).1 hx'
      have hk : k < 24 := hk
      rw [← UInt32.toNat_inj, UInt32.toNat_add, UInt32.toNat_add, UInt32.toNat_ofNat',
        UInt32.toNat_ofNat'] at heq
      have h100 : (100 : UInt32).toNat = 100 := rfl
      have h200 : (200 : UInt32).toNat = 200 := rfl
      omega
    · show twoParams.mem.long 104 ≠ 0
      rw [hptr]
      decide
  obtain ⟨writes, hwrites, hentries, hframe⟩ := (ioctl_lists twoParams).1 rfl (by decide) hapart
  obtain ⟨-, hkept⟩ := header_congr fun x hx => hframe x (hapart.apart x hx)
  have hptr' : (twoParams.after writes).long 104 = 200 := hkept.trans hptr
  have hnum' : (sParamListAt twoParams.mem (twoParams.arg 3)).numOfParameters = 2 := by
    show (twoParams.mem.long 100).toNat = 2
    rw [hnum]
    rfl
  have hentry : ∀ i < 2, sParamAt (twoParams.after writes) (200 + UInt32.ofNat (12 * i)) =
      fillParam (sParamAt twoParams.mem (200 + UInt32.ofNat (12 * i))) := by
    intro i hi
    have hi := hentries i (by rw [hnum']; exact hi)
    rw [getDeviceInfo_entry _ i (by rw [hnum']; omega)] at hi
    change sParamAt _ ((twoParams.after writes).long 104 + _) =
      fillParam (sParamAt _ (twoParams.mem.long 104 + _)) at hi
    rwa [hptr', hptr] at hi
  refine ⟨writes, hwrites, ?_, ?_⟩
  · rw [show (200 : UInt32) = 200 + UInt32.ofNat (12 * 0) from rfl, hentry 0 (by omega)]
    decide +kernel
  · rw [show (212 : UInt32) = 200 + UInt32.ofNat (12 * 1) from rfl, hentry 1 (by omega)]
    decide +kernel

end J2534CannelloniClient

end J2534Oip
