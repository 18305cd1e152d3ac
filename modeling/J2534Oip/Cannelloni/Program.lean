import J2534Oip.Cannelloni.Handed

/-!
# A program and the client on one memory

A program and the client take turns on one memory.  A run of both is a run of the client's
calls, and over it each call stays within what it was given, what it hands out is found, and
everything else the program finds as it left it (`client_memory`).
-/

namespace J2534Oip.Program

open Stores
open J2534CannelloniClient (Retval)

/-! ## Runs -/

/-- The memory of the process, and the client. -/
structure State where
  mem : Memory
  client : CallState

/-- A call that came back. -/
structure Performed where
  call : Invocation
  func : FuncName
  act : CallAct
  handed : Handed
  writes : List MemWrite

inductive Event
  /-- the program writes to memory itself -/
  | program (w : MemWrite)
  /-- a receive thread of the client -/
  | thread
  | performed (p : Performed)

inductive Step : State → Event → State → Prop
  | program (s : State) (w : MemWrite) :
      Step s (.program w) { s with mem := put nextAddr s.mem w.addr w.data }
  | thread (s : State) (client' : CallState) (h : CallStep s.client none client') :
      Step s .thread { s with client := client' }
  | performed (s : State) (args : List UInt32) (localAlloc : Nat → UInt32) (f : FuncName)
      (call : ApiCall) (retval : Retval) (client' : CallState) (handed : Handed)
      (h : s.client.Performs ⟨args, s.mem, localAlloc⟩ f call retval client' handed)
      (writes : List MemWrite) (hwrites : handed.writes ⟨args, s.mem, localAlloc⟩ = some writes) :
      Step s
        (.performed ⟨⟨args, s.mem, localAlloc⟩, f, ⟨s.client, call, retval, client'⟩, handed,
          writes⟩)
        { mem := storeAll nextAddr s.mem writes, client := client' }

namespace Event

/-- What an event is to the client. -/
def toAct : Event → Option (Option CallAct)
  | program _ => none
  | thread => some none
  | performed p => some (some p.act)

def toPerformed : Event → Option Performed
  | performed p => some p
  | _ => none

def writes : Event → List MemWrite
  | program w => [w]
  | thread => []
  | performed p => p.writes

end Event

/-- The calls of a run, in order. -/
def performed (es : List Event) : List Performed := es.filterMap Event.toPerformed

theorem mem_performed {es : List Event} {p : Performed} : p ∈ performed es ↔ .performed p ∈ es := by
  unfold performed
  rw [List.mem_filterMap]
  constructor
  · rintro ⟨e, he, heq⟩
    cases e with
    | performed p' => exact Option.some.inj heq ▸ he
    | program w => cases heq
    | thread => cases heq
  · exact fun he => ⟨_, he, rfl⟩

section
variable {init s : State} {es : List Event}

/-- A run of program and client is one of the client. -/
theorem client_run (h : Run Step init es s) :
    Run CallStep init.client (es.filterMap Event.toAct) s.client := by
  refine h.project (·.client) Event.toAct ?_ ?_
  · intro s e s' act hstep hact
    cases hstep with
    | program w => cases hact
    | thread client' h =>
      obtain rfl := Option.some.inj hact
      exact h
    | performed args localAlloc f call retval client' handed h writes hwrites =>
      obtain rfl := Option.some.inj hact
      exact .call s.client client' call retval h.returns
  · intro s e s' hstep hact
    cases hstep with
    | program w => rfl
    | thread client' h => cases hact
    | performed args localAlloc f call retval client' handed h writes hwrites => cases hact

/-- The memory is what all writes left of it. -/
theorem mem_run (h : Run Step init es s) :
    s.mem = storeAll nextAddr init.mem (es.flatMap Event.writes) := by
  induction h with
  | start => rfl
  | next hrun hstep ih =>
    rw [List.flatMap_append, storeAll_append, ← ih, List.flatMap_singleton]
    cases hstep <;> rfl

/-- A call that was made as `Performs` says, with its writes. -/
structure Performed.Made (p : Performed) : Prop where
  performs : p.act.before.Performs p.call p.func p.act.call p.act.retval p.act.after p.handed
  writes : p.handed.writes p.call = some p.writes

theorem made_run (h : Run Step init es s) : ∀ p ∈ performed es, p.Made := by
  intro p hp
  obtain ⟨pre, post, hes⟩ := List.append_of_mem (mem_performed.1 hp)
  refine h.acts (P := fun _ e => ∀ p, e = .performed p → p.Made) ?_ pre _ post hes p rfl
  rintro es s e s' - hstep p rfl
  cases hstep with
  | performed args localAlloc f call retval client' handed h writes hwrites => exact ⟨h, hwrites⟩

end

/-- **A program and the client.**  In a run of both, with the buffers of each call apart, the
calls are a run of the client; each call writes only to what it was given, and the program
finds there what it was handed; and what the program neither writes itself nor gives to a call
is at the end what it was. -/
theorem client_memory (init s : State) (es : List Event) (h : Run Step init es s)
    (hapart : ∀ p ∈ performed es, p.handed.Apart p.call) :
    Run CallStep init.client (es.filterMap Event.toAct) s.client ∧
    (∀ p ∈ performed es,
      p.act.before.Performs p.call p.func p.act.call p.act.retval p.act.after p.handed ∧
      (∀ w ∈ p.writes, w.Within nextAddr (p.call.Given p.func)) ∧
      p.handed.Found p.call (p.call.after p.writes)) ∧
    ∀ x, (∀ w, .program w ∈ es → ¬w.Covers nextAddr x) →
      (∀ p ∈ performed es, ¬p.call.Given p.func x) → s.mem x = init.mem x := by
  have hmade := made_run h
  have hwithin : ∀ p ∈ performed es, ∀ w ∈ p.writes, w.Within nextAddr (p.call.Given p.func) :=
    fun p hp => (hmade p hp).performs.within (hapart p hp) (hmade p hp).writes
  refine ⟨client_run h, fun p hp => ⟨(hmade p hp).performs, hwithin p hp, ?_⟩, ?_⟩
  · exact Handed.found (hmade p hp).performs.valid (hapart p hp) (hmade p hp).writes
  · intro x hprogram hgiven
    rw [mem_run h]
    refine storeAll_frame _ _ x fun w hw hcovers => ?_
    obtain ⟨e, he, hwe⟩ := List.mem_flatMap.1 hw
    cases e with
    | program w' =>
      obtain rfl := List.mem_singleton.1 hwe
      exact hprogram w he hcovers
    | thread => cases hwe
    | performed p =>
      have hp := mem_performed.2 he
      exact hgiven p hp (hwithin p hp w hwe x hcovers)

/-- A program scans, and asks for the first device. -/
theorem client_memory_device :
    let scan : Invocation := ⟨[100], fun _ => 0, fun _ => 0⟩
    let next : Invocation := ⟨[200], scan.after [writeLong 100 3], fun _ => 0⟩
    let d : SDevice := ⟨CallState.deviceName 20000, 1, 0, 3, 1000000000, 100, 100⟩
    let mem' := next.after [⟨200, deviceBytes d⟩]
    next.mem.long 100 = 3 ∧ sDeviceAt mem' 200 = d ∧ mem' 99 = 0 := by
  intro scan next d mem'
  let client := CallState.start [] 20000 1 0 0
  let scanned : Performed := ⟨scan, .passThruScanForDevices,
    ⟨client, .passThruScanForDevices true, .code .statusNoError, client⟩, .number 0 3,
    [writeLong 100 3]⟩
  let found : Performed := ⟨next, .passThruGetNextDevice,
    ⟨client, .passThruGetNextDevice true, .code .statusNoError, { client with scanIndex := 1 }⟩,
    .device d, [⟨200, deviceBytes d⟩]⟩
  have hscan : Step ⟨fun _ => 0, client⟩ (.performed scanned) ⟨next.mem, client⟩ :=
    .performed ⟨fun _ => 0, client⟩ [100] (fun _ => 0) _ _ _ client (.number 0 3)
      (.passThruScanForDevices client .statusNoError (some 3) rfl) _ rfl
  have hnext : Step ⟨next.mem, client⟩ (.performed found) ⟨mem', { client with scanIndex := 1 }⟩ :=
    .performed ⟨next.mem, client⟩ [200] (fun _ => 0) _ _ _ _ (.device d)
      (.passThruGetNextDevice _ .statusNoError (some d) rfl) _ rfl
  have hcalls : performed [.performed scanned, .performed found] = [scanned, found] := rfl
  obtain ⟨-, hfound, hframe⟩ := client_memory _ _ _ ((Run.start.next hscan).next hnext) (by
    intro p hp
    rw [List.nil_append, List.singleton_append, hcalls] at hp
    rcases List.mem_pair.1 hp with rfl | rfl
    · rintro ws hws
      obtain rfl := Option.some.inj hws
      exact pairwise_single _
    · rintro ws hws
      obtain rfl := Option.some.inj hws
      exact pairwise_single _)
  have hkept := hframe 99 (by simp) fun p hp => by
    rw [List.nil_append, List.singleton_append, hcalls] at hp
    rcases List.mem_pair.1 hp with rfl | rfl
    · show ¬Region nextAddr 100 4 99
      rw [region_iff]
      decide
    · show ¬Region nextAddr 200 104 99
      rw [region_iff]
      decide +kernel
  dsimp only at hkept
  exact ⟨(hfound scanned (by rw [mem_performed]; simp)).2.2,
    (hfound found (by rw [mem_performed]; simp)).2.2, hkept⟩

end J2534Oip.Program
