import J2534Oip.Emulator.Calls
import J2534Oip.Lib.Run

/-!
# `J2534Emulator` in the memory of its program

Program and emulator take turns on one memory.  A call should write only where the program
gave it a buffer, or where it allocated.  Two do not look at the size they were given:
`PassThruReadMsgs` stores a message when none was asked for; `GET_DEVICE_INFO` fills the
first entry of an empty list, and follows its pointer again after the first write.  Over a run

    every write of every call is within what was given ↔ every call fits   (writes_within_iff)

and then whatever the program does not write or give away stays as it is.
-/

namespace J2534Oip.J2534Emulator

open Bytes Stores

/-! ## What a call is given -/

/-- The buffers of a call, by what the caller promises of them, and what it allocates. -/
def Call.Given (c : Call) : FuncName → UInt32 → Prop
  | .passThruOpen, x => Region nextAddr (c.arg 1) 4 x
  | .passThruConnect, x => Region nextAddr (c.arg 4) 4 x
  -- as many messages as `*pNumMsgs` says
  | .passThruReadMsgs, x => Region nextAddr (c.arg 2) 4 x ∨
      Region nextAddr (c.arg 1) (4152 * (c.mem.long (c.arg 2)).toNat) x
  | .passThruReadVersion, x => ∃ i ∈ [1, 2, 3], Region nextAddr (c.arg i) 80 x
  | .passThruGetLastError, x =>
    if c.arg 0 = 0 then Region nextAddr (c.malloc 0) 2048 x else Region nextAddr (c.arg 0) 80 x
  | .passThruIoctl, x =>
    if c.arg 1 = 0x03 then Region nextAddr (c.arg 3) 4 x
    -- `NumOfParameters` entries of three numbers
    else if c.arg 1 = 0x800C then
      Region nextAddr (c.mem.long (c.arg 3 + 4)) (12 * (c.mem.long (c.arg 3)).toNat) x
    else False
  | .passThruGetNextCarDAQ, x => (∃ i ∈ [0, 1, 2], Region nextAddr (c.arg i) 4 x) ∨
      Region nextAddr (c.malloc 0) 16 x ∨ Region nextAddr (c.malloc 1) 128 x ∨
        Region nextAddr (c.malloc 2) 4 x
  | _, _ => False

/-- Where `GET_DEVICE_INFO` finds the first entry after it has set its `Supported`. -/
def Call.entryAgain (c : Call) : UInt32 :=
  (c.after [writeLong (c.mem.long (c.arg 3 + 4) + 8) 1]).long (c.arg 3 + 4)

/-- The buffers are as large as the emulator takes them to be. -/
def Call.Fits (c : Call) : FuncName → Prop
  | .passThruReadMsgs => c.mem.long (c.arg 2) ≠ 0
  | .passThruIoctl => c.arg 1 = 0x800C → c.mem.long (c.mem.long (c.arg 3 + 4)) = 1 →
      c.mem.long (c.arg 3) ≠ 0 ∧ ∀ x, Region nextAddr (c.entryAgain + 4) 4 x →
        c.Given .passThruIoctl x
  | _ => True

/-! ## The writes of a call -/

/-- Of two addresses four apart, at most one is among four in a row. -/
theorem not_region_four (a b : UInt32) (h : Region nextAddr a 4 b)
    (h' : Region nextAddr a 4 (b + UInt32.ofNat 4)) : False := by
  obtain ⟨i, hi, rfl⟩ := (region_iff a 4 b).1 h
  obtain ⟨j, hj, heq⟩ := (region_iff a 4 _).1 h'
  rw [UInt32.add_assoc, UInt32.add_right_inj, ← UInt32.ofNat_add, ← UInt32.toNat_inj,
    UInt32.toNat_ofNat', UInt32.toNat_ofNat'] at heq
  omega

theorem within_readMsgs (c : Call) :
    (∀ w ∈ [writeLong (c.arg 2) 1, ⟨c.arg 1, msgBytes Entry.fcMsg⟩],
        w.Within nextAddr (c.Given .passThruReadMsgs)) ↔ c.Fits .passThruReadMsgs := by
  have hmsg : (⟨c.arg 1, msgBytes Entry.fcMsg⟩ : MemWrite).data.length = 4152 :=
    length_msgBytes _
  constructor
  · intro h hzero
    have hmsgs := h _ (List.mem_cons_of_mem _ List.mem_cons_self)
    have hcell : ∀ k < 4152, Region nextAddr (c.arg 2) 4 (c.arg 1 + UInt32.ofNat k) := by
      intro k hk
      have hcover : Region nextAddr (c.arg 1) 4152 (c.arg 1 + UInt32.ofNat k) :=
        (region_iff _ _ _).2 ⟨k, hk, rfl⟩
      rw [← hmsg] at hcover
      rcases hmsgs _ hcover with hnum | ⟨j, hj, -⟩
      · exact hnum
      · rw [hzero] at hj
        simp at hj
    have hfirst := hcell 0 (by omega)
    rw [show UInt32.ofNat 0 = 0 from rfl, UInt32.add_zero] at hfirst
    exact not_region_four _ _ hfirst (hcell 4 (by omega))
  · intro hfits w hw x hx
    have hpos : 0 < (c.mem.long (c.arg 2)).toNat := by
      rw [Nat.pos_iff_ne_zero, ← UInt32.toNat_zero, Ne, UInt32.toNat_inj]
      exact hfits
    simp only [List.mem_cons, List.not_mem_nil, or_false] at hw
    rcases hw with rfl | rfl
    · exact Or.inl (covers_region 4 hx (by simp))
    · exact Or.inr (covers_region _ hx (by omega))

theorem deviceInfo_serial {c : Call} {writes : List MemWrite}
    (h : Entry.deviceInfo c = some writes) (hserial : c.mem.long (c.mem.long (c.arg 3 + 4)) = 1) :
    writes = [writeLong (c.mem.long (c.arg 3 + 4) + 8) 1,
      writeLong (c.entryAgain + 4) 987654321] := by
  simp only [Entry.deviceInfo] at h
  split_ifs at h
  exact (Option.some.inj h).symm

theorem deviceInfo_other {c : Call} {writes : List MemWrite}
    (h : Entry.deviceInfo c = some writes)
    (hserial : ¬c.mem.long (c.mem.long (c.arg 3 + 4)) = 1) : writes = [] := by
  simp only [Entry.deviceInfo] at h
  split_ifs at h
  exact (Option.some.inj h).symm

theorem within_deviceInfo (c : Call) (hioctl : c.arg 1 = 0x800C) (writes : List MemWrite)
    (h : Entry.deviceInfo c = some writes) :
    (∀ w ∈ writes, w.Within nextAddr (c.Given .passThruIoctl)) ↔ c.Fits .passThruIoctl := by
  have hgiven : ∀ x, c.Given .passThruIoctl x ↔
      Region nextAddr (c.mem.long (c.arg 3 + 4)) (12 * (c.mem.long (c.arg 3)).toNat) x := by
    intro x
    rw [Call.Given, hioctl, if_neg (by decide), if_pos rfl]
  by_cases hserial : c.mem.long (c.mem.long (c.arg 3 + 4)) = 1
  · obtain rfl := deviceInfo_serial h hserial
    constructor
    · intro hwithin _ _
      refine ⟨fun hzero => ?_, fun x hx => ?_⟩
      · have hcell := hwithin _ List.mem_cons_self (c.mem.long (c.arg 3 + 4) + 8)
          ⟨0, by simp, rfl⟩
        rw [hgiven, hzero] at hcell
        obtain ⟨j, hj, -⟩ := hcell
        simp at hj
      · refine hwithin _ (List.mem_cons_of_mem _ List.mem_cons_self) x ?_
        rw [← length_leBytes 4] at hx
        exact hx
    · intro hfits w hw x hx
      obtain ⟨hnum, hvalue⟩ := hfits hioctl hserial
      have hpos : 0 < (c.mem.long (c.arg 3)).toNat := by
        rw [Nat.pos_iff_ne_zero, ← UInt32.toNat_zero, Ne, UInt32.toNat_inj]
        exact hnum
      simp only [List.mem_cons, List.not_mem_nil, or_false] at hw
      rcases hw with rfl | rfl
      · rw [hgiven]
        exact (supported_within _ x hx).mono (by omega)
      · have hx := covers_region 4 hx (by simp)
        exact hvalue x hx
  · obtain rfl := deviceInfo_other h hserial
    exact iff_of_true (by simp) fun _ hone => absurd hone hserial

/-- A call without writes. -/
theorem within_nil {c : Call} {f : FuncName} {a : Answer} (hfits : c.Fits f)
    (h : a.writes = []) : (∀ w ∈ a.writes, w.Within nextAddr (c.Given f)) ↔ c.Fits f := by
  rw [h]
  exact iff_of_true (by simp) hfits

/-- A call with one write, of a number where there is room for one. -/
theorem within_long {c : Call} {f : FuncName} {a : Answer} {p n : UInt32} (hfits : c.Fits f)
    (hgiven : ∀ x, Region nextAddr p 4 x → c.Given f x) (h : a.writes = [writeLong p n]) :
    (∀ w ∈ a.writes, w.Within nextAddr (c.Given f)) ↔ c.Fits f := by
  rw [h]
  refine iff_of_true (fun w hw x hx => ?_) hfits
  obtain rfl := List.mem_singleton.1 hw
  exact hgiven x (covers_region 4 hx (by simp))

theorem writes_recorded {c : Call} {f : FuncName} {writes : List MemWrite}
    {puts : List (Key × Val)} {a : Answer} (h : c.recorded f writes puts = some a) :
    a.writes = writes := by
  obtain ⟨record, -, rfl⟩ := Option.map_eq_some_iff.1 h
  rfl

theorem within_carDAQ (c : Call) (a : Answer) (h : Entry.passThruGetNextCarDAQ c = some a) :
    ∀ w ∈ a.writes, w.Within nextAddr (c.Given .passThruGetNextCarDAQ) := by
  have hname : ∀ x, Region nextAddr (c.arg 0) 4 x → c.Given .passThruGetNextCarDAQ x :=
    fun x hx => Or.inl ⟨0, by decide, hx⟩
  have haddr : ∀ x, Region nextAddr (c.arg 2) 4 x → c.Given .passThruGetNextCarDAQ x :=
    fun x hx => Or.inl ⟨2, by decide, hx⟩
  simp only [Entry.passThruGetNextCarDAQ] at h
  split at h
  · obtain rfl := Option.some.inj h
    simp
  · split at h
    · split at h
      · cases h
      · obtain rfl := Option.some.inj h
        intro w hw x hx
        simp only [List.mem_cons, List.not_mem_nil, or_false] at hw
        rcases hw with rfl | rfl | rfl | rfl | rfl | rfl | rfl
        · exact Or.inr (Or.inl (covers_region 16 hx (by simp [writeZeros])))
        · exact Or.inr (Or.inl (writeString_within 16 (by decide) hx))
        · exact Or.inr (Or.inr (Or.inl (covers_region 128 hx (by simp [writeZeros]))))
        · exact Or.inr (Or.inr (Or.inl (writeString_within 128 (by decide) hx)))
        · exact Or.inr (Or.inr (Or.inr (covers_region 4 hx (by simp))))
        · exact hname x (covers_region 4 hx (by simp))
        · exact haddr x (covers_region 4 hx (by simp))
    · obtain rfl := Option.some.inj h
      intro w hw x hx
      obtain rfl := List.mem_singleton.1 hw
      exact hname x (covers_region 4 hx (by simp))

/-- **When a call stays within its buffers.** -/
theorem within_iff {f : FuncName} {c : Call} {a : Answer} (h : c.answer f = some a) :
    (∀ w ∈ a.writes, w.Within nextAddr (c.Given f)) ↔ c.Fits f := by
  cases f with
  | passThruOpen =>
    simp only [Call.answer, Entry.passThruOpen] at h
    split at h
    · cases h
    · exact within_long trivial (fun _ hx => hx) (writes_recorded h)
  | passThruConnect =>
    simp only [Call.answer, Entry.passThruConnect] at h
    split at h
    · split at h
      · cases h
      · exact within_long trivial (fun _ hx => hx) (writes_recorded h)
    · exact within_nil trivial (writes_recorded h)
  | passThruReadMsgs =>
    simp only [Call.answer, Entry.passThruReadMsgs] at h
    split at h
    · cases h
    · rw [writes_recorded h]
      exact within_readMsgs c
  | passThruClose =>
    simp only [Call.answer, Entry.passThruClose] at h
    exact within_nil trivial (writes_recorded h)
  | passThruDisconnect =>
    simp only [Call.answer, Entry.passThruDisconnect] at h
    exact within_nil trivial (writes_recorded h)
  | passThruQueueMsgs =>
    simp only [Call.answer, Entry.passThruQueueMsgs] at h
    exact within_nil trivial (writes_recorded h)
  | passThruWriteMsgs =>
    simp only [Call.answer, Entry.passThruWriteMsgs] at h
    exact within_nil trivial (writes_recorded h)
  | passThruReadVersion =>
    simp only [Call.answer, Entry.passThruReadVersion] at h
    split at h
    · cases h
    · obtain rfl := Option.some.inj h
      refine iff_of_true (fun w hw x hx => ?_) trivial
      simp only [Call.called, List.mem_cons, List.not_mem_nil, or_false] at hw
      rcases hw with rfl | rfl | rfl
      · exact ⟨3, by decide, writeText_within (by decide) hx⟩
      · exact ⟨2, by decide, writeText_within (by decide) hx⟩
      · exact ⟨1, by decide, writeText_within (by decide) hx⟩
  | passThruGetLastError =>
    simp only [Call.answer, Entry.passThruGetLastError] at h
    refine iff_of_true (fun w hw x hx => ?_) trivial
    show if c.arg 0 = 0 then _ else _
    by_cases harg : c.arg 0 = 0
    · rw [if_pos harg] at h ⊢
      split at h
      · cases h
      · obtain rfl := Option.some.inj h
        obtain rfl := List.mem_singleton.1 hw
        exact writeString_within 2048 (by decide) hx
    · rw [if_neg harg, if_neg harg] at h
      rw [if_neg harg]
      obtain rfl := Option.some.inj h
      obtain rfl := List.mem_singleton.1 hw
      exact writeString_within 80 (by decide) hx
  | passThruIoctl =>
    simp only [Call.answer, Entry.passThruIoctl] at h
    obtain ⟨writes, hwrites, rfl⟩ := Option.map_eq_some_iff.1 h
    split_ifs at hwrites with hvbatt hnull hconfig hlist hinfo
    · have hfits : c.Fits .passThruIoctl := by
        intro hioctl
        rw [hioctl] at hvbatt
        exact absurd hvbatt (by decide)
      refine within_long hfits (fun x hx => ?_) (Option.some.inj hwrites).symm
      rw [Call.Given, if_pos hvbatt]
      exact hx
    · have hfits : c.Fits .passThruIoctl := by
        intro hioctl
        rw [hioctl] at hconfig
        exact absurd hconfig (by decide)
      exact within_nil hfits (Option.some.inj hwrites).symm
    · exact within_deviceInfo c hinfo writes hwrites
    · exact within_nil (fun hioctl => absurd hioctl hinfo) (Option.some.inj hwrites).symm
  | passThruGetNextCarDAQ => exact iff_of_true (within_carDAQ c a h) trivial
  | _ =>
    obtain rfl := Option.some.inj h
    exact within_nil trivial rfl

/-! ## The first entry -/

/-- `GET_DEVICE_INFO` does to the first entry in memory what it does to that of a list, where
the list's pointer is apart from the entry's `Supported`. -/
theorem sParamAt_deviceInfo (c : Call) (writes : List MemWrite)
    (h : Entry.deviceInfo c = some writes)
    (hapart : ∀ x, Region nextAddr (c.arg 3 + 4) 4 x →
      ¬Region nextAddr (c.mem.long (c.arg 3 + 4) + 8) 4 x) :
    sParamAt (c.after writes) (c.mem.long (c.arg 3 + 4)) =
      fillParam (sParamAt c.mem (c.mem.long (c.arg 3 + 4))) := by
  have hagain : c.entryAgain = c.mem.long (c.arg 3 + 4) := by
    show (storeLong c.mem (c.mem.long (c.arg 3 + 4) + 8) 1).long (c.arg 3 + 4) = _
    exact long_storeLong_of_apart _ _ _ _ hapart
  by_cases hserial : c.mem.long (c.mem.long (c.arg 3 + 4)) = 1
  · obtain rfl := deviceInfo_serial h hserial
    rw [hagain]
    generalize c.mem.long (c.arg 3 + 4) = p at hserial ⊢
    show sParamAt (storeLong (storeLong c.mem (p + 8) 1) (p + 4) 987654321) p = _
    rw [sParamAt_value, sParamAt_supported]
    exact (if_pos hserial).symm
  · obtain rfl := deviceInfo_other h hserial
    exact (if_neg hserial).symm

/-! ## A program's run -/

/-- The memory of the process, and `_dev_counter`. -/
structure State where
  mem : Memory
  devCounter : Nat

/-- A call that came back. -/
structure Called where
  call : Call
  func : FuncName
  answer : Answer

inductive Event
  /-- the program writes to memory itself -/
  | program (w : MemWrite)
  | called (c : Called)

inductive Step : State → Event → State → Prop
  | program (s : State) (w : MemWrite) :
      Step s (.program w) { s with mem := put nextAddr s.mem w.addr w.data }
  | called (s : State) (f : FuncName) (args : List UInt32) (malloc : Nat → UInt32) (a : Answer)
      (h : Call.answer ⟨args, s.mem, malloc, s.devCounter⟩ f = some a) :
      Step s (.called ⟨⟨args, s.mem, malloc, s.devCounter⟩, f, a⟩)
        ⟨storeAll nextAddr s.mem a.writes, a.devCounter⟩

def Event.toCalled : Event → Option Called
  | .program _ => none
  | .called c => some c

/-- The calls of a run, in order. -/
def calls (es : List Event) : List Called := es.filterMap Event.toCalled

/-- What the program itself writes. -/
def Event.toWrite : Event → Option MemWrite
  | .program w => some w
  | .called _ => none

def programWrites (es : List Event) : List MemWrite := es.filterMap Event.toWrite

theorem calls_append_called (es : List Event) (c : Called) :
    calls (es ++ [.called c]) = calls es ++ [c] := by
  rw [calls, List.filterMap_append]
  rfl

theorem calls_append_program (es : List Event) (w : MemWrite) :
    calls (es ++ [.program w]) = calls es := by
  rw [calls, List.filterMap_append]
  exact List.append_nil _

/-- Every call of a run is answered. -/
theorem answer_run {init s : State} {es : List Event} (h : Run Step init es s) :
    ∀ c ∈ calls es, c.call.answer c.func = some c.answer := by
  refine h.invariant (I := fun es _ => ∀ c ∈ calls es, c.call.answer c.func = some c.answer)
    (by simp [calls]) ?_
  intro es s e s' _ ih hstep c hc
  cases hstep with
  | program w =>
    rw [calls_append_program] at hc
    exact ih c hc
  | called f args malloc a hanswer =>
    rw [calls_append_called] at hc
    rcases List.mem_append.1 hc with hc | hc
    · exact ih c hc
    · obtain rfl := List.mem_singleton.1 hc
      exact hanswer

/-- What neither the program writes nor a call is given stays, when every call fits. -/
theorem frame_run {init s : State} {es : List Event} (h : Run Step init es s) (x : UInt32)
    (hfits : ∀ c ∈ calls es, c.call.Fits c.func)
    (hprogram : ∀ w ∈ programWrites es, ¬w.Covers nextAddr x)
    (hgiven : ∀ c ∈ calls es, ¬c.call.Given c.func x) : s.mem x = init.mem x := by
  induction h with
  | start => rfl
  | @next es s s' e hrun hstep ih =>
    have hprogram' : ∀ w ∈ programWrites es, ¬w.Covers nextAddr x := by
      intro w hw
      refine hprogram w ?_
      rw [programWrites, List.filterMap_append]
      exact List.mem_append_left _ hw
    cases hstep with
    | program w =>
      rw [calls_append_program] at hfits hgiven
      have hw : ¬w.Covers nextAddr x := by
        refine hprogram w ?_
        rw [programWrites, List.filterMap_append]
        exact List.mem_append_right _ List.mem_cons_self
      exact (put_frame _ _ _ _ hw).trans (ih hfits hprogram' hgiven)
    | called f args malloc a hanswer =>
      rw [calls_append_called] at hfits hgiven
      obtain ⟨hfits, hfit⟩ := List.forall_mem_append.1 hfits
      obtain ⟨hgiven, hgive⟩ := List.forall_mem_append.1 hgiven
      have hwithin := (within_iff hanswer).2 (hfit _ (List.mem_singleton_self _))
      have hnot : ∀ w ∈ a.writes, ¬w.Covers nextAddr x :=
        fun w hw hx => hgive _ (List.mem_singleton_self _) (hwithin w hw x hx)
      exact (storeAll_frame _ _ _ hnot).trans (ih hfits hprogram' hgiven)

/-- **The emulator in its program's memory.**  Over any run of a program and its calls, all
that the calls write is within the buffers they were given iff every call fits: no read of
messages asks for none, no empty parameter list is followed by a `SERIAL_NUMBER`, and none lies
where the first write turns its pointer away.  Then what the program does not write itself and
gives to no call, and no call allocates, is what it was. -/
theorem writes_within_iff (init s : State) (es : List Event) (h : Run Step init es s) :
    ((∀ c ∈ calls es, ∀ w ∈ c.answer.writes, w.Within nextAddr (c.call.Given c.func)) ↔
      ∀ c ∈ calls es, c.call.Fits c.func) ∧
    ((∀ c ∈ calls es, c.call.Fits c.func) → ∀ x,
      (∀ w ∈ programWrites es, ¬w.Covers nextAddr x) →
      (∀ c ∈ calls es, ¬c.call.Given c.func x) → s.mem x = init.mem x) := by
  have hanswer := answer_run h
  refine ⟨?_, fun hfits x hprogram hgiven => frame_run h x hfits hprogram hgiven⟩
  refine forall_congr' fun c => forall_congr' fun hc => ?_
  exact within_iff (hanswer c hc)

/-- A program that asks for the battery voltage. -/
theorem writes_within_iff_vbatt :
    let c : Call := ⟨[1, 3, 0, 100], fun _ => 7, fun _ => 4096, 0⟩
    let a : Answer := c.called .passThruIoctl [writeLong 100 14400]
    (∀ w ∈ a.writes, w.Within nextAddr (c.Given .passThruIoctl)) ∧ c.after a.writes 99 = 7 := by
  intro c a
  have hrun : Run Step ⟨fun _ => 7, 0⟩ [.called ⟨c, .passThruIoctl, a⟩]
      ⟨c.after a.writes, 0⟩ :=
    Run.start.next (.called _ .passThruIoctl [1, 3, 0, 100] (fun _ => 4096) a rfl)
  obtain ⟨hiff, hframe⟩ := writes_within_iff _ _ _ hrun
  have hfits : ∀ c' ∈ calls [.called ⟨c, .passThruIoctl, a⟩], c'.call.Fits c'.func := by
    intro c' hc'
    obtain rfl := List.mem_singleton.1 hc'
    exact fun hioctl => absurd hioctl (by decide)
  refine ⟨hiff.2 hfits _ (List.mem_singleton_self _), hframe hfits 99 (by simp [programWrites,
    Event.toWrite]) fun c' hc' => ?_⟩
  obtain rfl := List.mem_singleton.1 hc'
  show ¬Region nextAddr 100 4 99
  rw [region_iff]
  decide

/-! ## Devices -/

/-- A `PassThruGetNextCarDAQ` that could get a device. -/
def Called.Asks (c : Called) : Prop :=
  c.func = .passThruGetNextCarDAQ ∧ ¬(c.call.arg 0 = 0 ∨ c.call.arg 1 = 0 ∨ c.call.arg 2 = 0)

/-- The counter moves with the first call that asks. -/
theorem devCounter_answer {f : FuncName} {c : Call} {a : Answer} (h : c.answer f = some a) :
    a.devCounter = 0 ↔ c.devCounter = 0 ∧ ¬(⟨c, f, a⟩ : Called).Asks := by
  by_cases hf : f = .passThruGetNextCarDAQ
  · subst hf
    simp only [Call.answer, Entry.passThruGetNextCarDAQ] at h
    split at h
    · next hnull =>
      obtain rfl := Option.some.inj h
      exact (and_iff_left fun hasks => hasks.2 hnull).symm
    · next hnull =>
      split at h
      · split at h
        · cases h
        · obtain rfl := Option.some.inj h
          exact iff_of_false (Nat.succ_ne_zero _) fun hboth => hboth.2 ⟨rfl, hnull⟩
      · next hcounter =>
        obtain rfl := Option.some.inj h
        exact iff_of_false hcounter fun hboth => hcounter hboth.1
  · rw [(answered h).counter hf]
    exact (and_iff_left fun hasks => hf hasks.1).symm

theorem devCounter_run {init s : State} {es : List Event} (h : Run Step init es s)
    (h0 : init.devCounter = 0) : s.devCounter = 0 ↔ ∀ c ∈ calls es, ¬c.Asks := by
  refine h.invariant (I := fun es s => s.devCounter = 0 ↔ ∀ c ∈ calls es, ¬c.Asks)
    (iff_of_true h0 (by simp [calls])) ?_
  intro es s e s' _ ih hstep
  cases hstep with
  | program w =>
    rw [calls_append_program]
    exact ih
  | called f args malloc a hanswer =>
    rw [calls_append_called, List.forall_mem_append, ← ih]
    refine (devCounter_answer hanswer).trans (and_congr_right fun _ => ?_)
    simp

/-- What a call that asks leaves at `name`, apart from what it leaves at `addr`. -/
theorem name_carDAQ {c : Call} {a : Answer} (h : c.answer .passThruGetNextCarDAQ = some a)
    (hasks : (⟨c, .passThruGetNextCarDAQ, a⟩ : Called).Asks)
    (hapart : ∀ x, Region nextAddr (c.arg 0) 4 x → ¬Region nextAddr (c.arg 2) 4 x) :
    (c.after a.writes).long (c.arg 0) ≠ 0 ↔ c.devCounter = 0 := by
  simp only [Call.answer, Entry.passThruGetNextCarDAQ] at h
  rw [if_neg hasks.2] at h
  by_cases hcounter : c.devCounter = 0
  · rw [if_pos hcounter] at h
    split at h
    · cases h
    · next hmalloc =>
      obtain rfl := Option.some.inj h
      refine iff_of_true ?_ hcounter
      show Memory.long (storeLong (storeLong _ (c.arg 0) (c.malloc 0)) (c.arg 2) (c.malloc 1)) _ ≠ 0
      rw [long_storeLong_of_apart _ _ _ _ hapart, long_storeLong]
      exact fun hzero => hmalloc (Or.inl hzero)
  · rw [if_neg hcounter] at h
    obtain rfl := Option.some.inj h
    exact iff_of_false (fun hne => hne (long_storeLong c.mem (c.arg 0) 0)) hcounter

/-- **One device a process.**  Over any run, whichever emulator is asked, a call gets a device
iff none that could get one was made before it; all later ones are told that there are no more. -/
theorem device_iff_first (init s : State) (es : List Event) (h : Run Step init es s)
    (h0 : init.devCounter = 0) (pre : List Event) (c : Called) (post : List Event)
    (hes : es = pre ++ .called c :: post) (hasks : c.Asks)
    (hapart : ∀ x, Region nextAddr (c.call.arg 0) 4 x → ¬Region nextAddr (c.call.arg 2) 4 x) :
    (c.call.after c.answer.writes).long (c.call.arg 0) ≠ 0 ↔ ∀ c' ∈ calls pre, ¬c'.Asks := by
  have hcall : ∀ c', Event.called c = .called c' →
      c'.call.answer c'.func = some c'.answer ∧
        (c'.call.devCounter = 0 ↔ ∀ c ∈ calls pre, ¬c.Asks) := by
    refine h.acts (P := fun pre e => ∀ c', e = .called c' →
      c'.call.answer c'.func = some c'.answer ∧
        (c'.call.devCounter = 0 ↔ ∀ c ∈ calls pre, ¬c.Asks)) ?_ pre _ post hes
    intro es s e s' hrun hstep c' hc'
    cases hstep with
    | program w => cases hc'
    | called f args malloc a hanswer =>
      obtain rfl := Event.called.inj hc'
      exact ⟨hanswer, devCounter_run hrun h0⟩
  obtain ⟨hanswer, hcounter⟩ := hcall c rfl
  obtain ⟨call, f, a⟩ := c
  obtain rfl : f = .passThruGetNextCarDAQ := hasks.1
  rw [← hcounter]
  exact name_carDAQ hanswer hasks hapart

/-- Two calls on the same variables. -/
theorem device_iff_first_two :
    let unanswered : Answer := ⟨[], [], 0, .statusNoError⟩
    let first : Call := ⟨[100, 200, 300], fun _ => 0, fun k => 4096 * UInt32.ofNat (k + 1), 0⟩
    let a := (first.answer .passThruGetNextCarDAQ).getD unanswered
    let second : Call := { first with mem := first.after a.writes, devCounter := a.devCounter }
    let b := (second.answer .passThruGetNextCarDAQ).getD unanswered
    (second.after b.writes).long 100 ≠ 0 ↔
      ∀ c' ∈ calls [.called ⟨first, .passThruGetNextCarDAQ, a⟩], ¬c'.Asks := by
  intro unanswered first a second b
  have hrun : Run Step ⟨first.mem, 0⟩ [.called ⟨first, .passThruGetNextCarDAQ, a⟩,
      .called ⟨second, .passThruGetNextCarDAQ, b⟩] ⟨second.after b.writes, b.devCounter⟩ :=
    (Run.start.next (.called _ .passThruGetNextCarDAQ first.args first.malloc a rfl)).next
      (.called ⟨second.mem, second.devCounter⟩ .passThruGetNextCarDAQ first.args first.malloc b rfl)
  refine device_iff_first _ _ _ hrun rfl [.called ⟨first, .passThruGetNextCarDAQ, a⟩]
    ⟨second, .passThruGetNextCarDAQ, b⟩ [] rfl ⟨rfl, by decide⟩ fun x hx => ?_
  exact apart_four 100 0 200 (by omega) (by omega) x hx

end J2534Oip.J2534Emulator
