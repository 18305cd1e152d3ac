import J2534Oip.Lib.Run
import Mathlib.Logic.Function.Basic

/-!
# Locks: who may hold what

The calls of a client hold `globalMutex`; a pop and a look at a queue also take the
`msgQueueMutex` of their channel, for a moment.  A receive thread takes only the
`msgQueueMutex` of its channel, and `PassThruClose` waits for it with `globalMutex` held,
after it set `stopRequested`.  Data decides which way a call goes, so every way that some
data can lead to is a step here.

    LockInv s → LockStep s x s' → LockInv s'                     (lockInv_step)

One lemma for each kind of step.
-/

namespace J2534Oip

namespace Locks

/-! ## Threads -/

/-- What a call does next, with `globalMutex` held. -/
inductive Work
  | open
  | close (port : UInt32)
  /-- the loop of `PassThruReadMsgs`, with so many messages wanted -/
  | read (port : UInt32) (left : Nat)
  | write
  /-- the polling loop of `PassThruSelect`, with these channels left in its pass -/
  | select (ids left : List UInt32)
  /-- `globalMutex` is released -/
  | leave

/-- The program counter of a thread that makes calls. -/
inductive Pc
  | idle
  | finished
  /-- it waits for `globalMutex` -/
  | entering (work : Work)
  | inside (work : Work)
  /-- `stopRequested` is set; `recvThread.join()` -/
  | joining (port : UInt32)
  /-- it waits for the channel's `msgQueueMutex`, in the middle of `work` -/
  | waiting (port : UInt32) (work : Work)
  /-- it holds it -/
  | holding (port : UInt32) (work : Work)

/-- How a call begins. -/
def Work.IsCall : Work → Prop
  | .open | .close _ | .read _ _ | .write => True
  | .select _ left => left = []
  | .leave => False

/-- The program counter of a receive thread. -/
inductive RecvPc
  /-- at `while (!ctx.stopRequested.load())` -/
  | head
  /-- in `select` or `recv`, or looking at a datagram -/
  | receiving
  /-- it waits for its `msgQueueMutex` -/
  | waiting
  | holding
  | ended
deriving DecidableEq

/-- An entry of `channelMap`. -/
structure Channel (τ ρ : Type*) where
  msgQueueMutex : Option (τ ⊕ ρ)
  stopRequested : Bool
  recvThread : ρ

/-- Callers are `τ`, receive threads `ρ`. -/
structure State (τ ρ : Type*) where
  pc : τ → Pc
  globalMutex : Option τ
  channelMap : UInt32 → Option (Channel τ ρ)
  /-- the receive threads started, and the channel each serves -/
  recv : ρ → Option (UInt32 × RecvPc)

/-! ## Steps -/

/-- What a call does between locks; `isOpen` tells which channels there are. -/
inductive Goes (isOpen : UInt32 → Prop) : Pc → Pc → Prop
  | finish : Goes isOpen .idle .finished
  | call (work : Work) (h : work.IsCall) : Goes isOpen .idle (.entering work)
  | openFails : Goes isOpen (.inside .open) (.inside .leave)
  | closeUnknown (port : UInt32) (h : ¬isOpen port) :
      Goes isOpen (.inside (.close port)) (.inside .leave)
  | readUnknown (port : UInt32) (left : Nat) (h : ¬isOpen port) :
      Goes isOpen (.inside (.read port left)) (.inside .leave)
  | readFull (port : UInt32) : Goes isOpen (.inside (.read port 0)) (.inside .leave)
  | readTimeout (port : UInt32) (left : Nat) :
      Goes isOpen (.inside (.read port left)) (.inside .leave)
  | readPop (port : UInt32) (left : Nat) (h : isOpen port) :
      Goes isOpen (.inside (.read port (left + 1))) (.waiting port (.read port left))
  | write : Goes isOpen (.inside .write) (.inside .leave)
  | selectPass (ids : List UInt32) :
      Goes isOpen (.inside (.select ids [])) (.inside (.select ids ids))
  | selectEnd (ids : List UInt32) : Goes isOpen (.inside (.select ids [])) (.inside .leave)
  | selectSkip (ids left : List UInt32) (port : UInt32) (h : ¬isOpen port) :
      Goes isOpen (.inside (.select ids (port :: left))) (.inside (.select ids left))
  | selectLook (ids left : List UInt32) (port : UInt32) (h : isOpen port) :
      Goes isOpen (.inside (.select ids (port :: left))) (.waiting port (.select ids left))

/-- What a receive thread does between locks. -/
inductive RecvGoes (stopRequested : Bool) : RecvPc → RecvPc → Prop
  | stop (h : stopRequested = true) : RecvGoes stopRequested .head .ended
  | pass (h : stopRequested = false) : RecvGoes stopRequested .head .receiving
  | nothing : RecvGoes stopRequested .receiving .head
  | malformed : RecvGoes stopRequested .receiving .ended
  | datagram : RecvGoes stopRequested .receiving .waiting

variable {τ ρ : Type*}

namespace State

variable (s : State τ ρ)

def IsOpen (port : UInt32) : Prop := s.channelMap port ≠ none

def setGlobal (holder : Option τ) : State τ ρ := { s with globalMutex := holder }

def setPc [DecidableEq τ] (t : τ) (pc : Pc) : State τ ρ :=
  { s with pc := Function.update s.pc t pc }

def setRecv [DecidableEq ρ] (r : ρ) (port : UInt32) (pc : RecvPc) : State τ ρ :=
  { s with recv := Function.update s.recv r (some (port, pc)) }

def setChannel (port : UInt32) (c : Option (Channel τ ρ)) : State τ ρ :=
  { s with channelMap := Function.update s.channelMap port c }

theorem channelMap_setChannel_self (port : UInt32) (c : Option (Channel τ ρ)) :
    (s.setChannel port c).channelMap port = c := Function.update_self ..

theorem channelMap_setChannel_of_ne {port q : UInt32} (h : q ≠ port) (c : Option (Channel τ ρ)) :
    (s.setChannel port c).channelMap q = s.channelMap q := Function.update_of_ne h ..

/-- What holds of the new channel and of all others. -/
theorem forall_setChannel {P : UInt32 → Channel τ ρ → Prop} (port : UInt32)
    (c : Option (Channel τ ρ)) (hnew : ∀ d, c = some d → P port d)
    (hother : ∀ q, q ≠ port → ∀ d, s.channelMap q = some d → P q d) :
    ∀ q d, (s.setChannel port c).channelMap q = some d → P q d := by
  intro q d hd
  by_cases hq : q = port
  · subst hq
    rw [channelMap_setChannel_self] at hd
    exact hnew d hd
  · rw [channelMap_setChannel_of_ne s hq] at hd
    exact hother q hq d hd

/-- A changed or new channel is open, the others are as they were. -/
theorem isOpen_setChannel (port : UInt32) (c : Channel τ ρ) {q : UInt32}
    (h : q ≠ port → s.IsOpen q) : (s.setChannel port (some c)).IsOpen q := by
  unfold IsOpen
  by_cases hq : q = port
  · rw [hq, channelMap_setChannel_self]
    exact Option.some_ne_none c
  · rw [channelMap_setChannel_of_ne s hq]
    exact h hq

/-- A changed channel keeps its receive thread. -/
theorem recvThread_setChannel {port : UInt32} {c c' : Channel τ ρ} (hc : s.channelMap port = some c)
    (hrecv : c'.recvThread = c.recvThread) {q : UInt32} {r : ρ}
    (h : ∃ d, s.channelMap q = some d ∧ d.recvThread = r) :
    ∃ d, (s.setChannel port (some c')).channelMap q = some d ∧ d.recvThread = r := by
  obtain ⟨d, hd, hthread⟩ := h
  by_cases hq : q = port
  · subst hq
    obtain rfl : c = d := Option.some.inj (hc.symm.trans hd)
    exact ⟨c', channelMap_setChannel_self .., hrecv.trans hthread⟩
  · exact ⟨d, (channelMap_setChannel_of_ne s hq _).trans hd, hthread⟩

end State

section
variable [DecidableEq τ] [DecidableEq ρ]

/-- One step of a thread. -/
inductive LockStep : State τ ρ → τ ⊕ ρ → State τ ρ → Prop
  | goes (s : State τ ρ) (t : τ) (pc : Pc) (h : Goes s.IsOpen (s.pc t) pc) :
      LockStep s (.inl t) (s.setPc t pc)
  | enter (s : State τ ρ) (t : τ) (work : Work) (hpc : s.pc t = .entering work)
      (hfree : s.globalMutex = none) :
      LockStep s (.inl t) ((s.setPc t (.inside work)).setGlobal (some t))
  | leave (s : State τ ρ) (t : τ) (hpc : s.pc t = .inside .leave) :
      LockStep s (.inl t) ((s.setPc t .idle).setGlobal none)
  /-- a new entry, and a new thread for it -/
  | opened (s : State τ ρ) (t : τ) (hpc : s.pc t = .inside .open) (port : UInt32)
      (hport : ¬s.IsOpen port) (r : ρ) (hr : s.recv r = none) :
      LockStep s (.inl t) (((s.setPc t (.inside .leave)).setRecv r port .head).setChannel port
        (some { msgQueueMutex := none, stopRequested := false, recvThread := r }))
  | closing (s : State τ ρ) (t : τ) (port : UInt32) (hpc : s.pc t = .inside (.close port))
      (c : Channel τ ρ) (hc : s.channelMap port = some c) :
      LockStep s (.inl t) ((s.setPc t (.joining port)).setChannel port
        (some { c with stopRequested := true }))
  | joined (s : State τ ρ) (t : τ) (port : UInt32) (hpc : s.pc t = .joining port)
      (c : Channel τ ρ) (hc : s.channelMap port = some c)
      (hended : s.recv c.recvThread = some (port, .ended)) :
      LockStep s (.inl t) ((s.setPc t (.inside .leave)).setChannel port none)
  | lock (s : State τ ρ) (t : τ) (port : UInt32) (work : Work) (hpc : s.pc t = .waiting port work)
      (c : Channel τ ρ) (hc : s.channelMap port = some c) (hfree : c.msgQueueMutex = none) :
      LockStep s (.inl t) ((s.setPc t (.holding port work)).setChannel port
        (some { c with msgQueueMutex := some (.inl t) }))
  /-- the call goes on, or a read ends because it found the queue empty -/
  | unlock (s : State τ ρ) (t : τ) (port : UInt32) (work next : Work)
      (hpc : s.pc t = .holding port work)
      (hnext : next = work ∨ (∃ left, work = .read port left) ∧ next = .leave)
      (c : Channel τ ρ) (hc : s.channelMap port = some c) :
      LockStep s (.inl t) ((s.setPc t (.inside next)).setChannel port
        (some { c with msgQueueMutex := none }))
  | recvGoes (s : State τ ρ) (r : ρ) (port : UInt32) (pc pc' : RecvPc)
      (hpc : s.recv r = some (port, pc)) (c : Channel τ ρ) (hc : s.channelMap port = some c)
      (h : RecvGoes c.stopRequested pc pc') :
      LockStep s (.inr r) (s.setRecv r port pc')
  | recvLock (s : State τ ρ) (r : ρ) (port : UInt32) (hpc : s.recv r = some (port, .waiting))
      (c : Channel τ ρ) (hc : s.channelMap port = some c) (hfree : c.msgQueueMutex = none) :
      LockStep s (.inr r) ((s.setRecv r port .holding).setChannel port
        (some { c with msgQueueMutex := some (.inr r) }))
  | recvUnlock (s : State τ ρ) (r : ρ) (port : UInt32) (hpc : s.recv r = some (port, .holding))
      (c : Channel τ ρ) (hc : s.channelMap port = some c) :
      LockStep s (.inr r) ((s.setRecv r port .head).setChannel port
        (some { c with msgQueueMutex := none }))

end

/-! ## Who holds what -/

def Pc.InGlobal : Pc → Prop
  | .inside _ | .joining _ | .waiting _ _ | .holding _ _ => True
  | .idle | .finished | .entering _ => False

def Pc.HoldsQueue (port : UInt32) : Pc → Prop
  | .holding p _ => p = port
  | _ => False

/-- The call relies on the channel being open. -/
def Pc.Uses (port : UInt32) : Pc → Prop
  | .joining p | .waiting p _ | .holding p _ => p = port
  | _ => False

/-- The channel's mutex is held by whoever thinks so, and its receive thread serves it. -/
structure ChannelOk (pc : τ → Pc) (recv : ρ → Option (UInt32 × RecvPc)) (port : UInt32)
    (c : Channel τ ρ) : Prop where
  callers : ∀ t, c.msgQueueMutex = some (.inl t) ↔ (pc t).HoldsQueue port
  threads : ∀ r, c.msgQueueMutex = some (.inr r) ↔ recv r = some (port, .holding)
  served : ∃ rpc, recv c.recvThread = some (port, rpc)

/-- `globalMutex` is held by the thread that thinks so; a channel in use is open; a running
receive thread is the one of its channel. -/
structure LockInv (s : State τ ρ) : Prop where
  globalMutex : ∀ t, s.globalMutex = some t ↔ (s.pc t).InGlobal
  channels : ∀ port c, s.channelMap port = some c → ChannelOk s.pc s.recv port c
  uses : ∀ port t, (s.pc t).Uses port → s.IsOpen port
  serves : ∀ r port rpc, s.recv r = some (port, rpc) → rpc ≠ .ended →
    ∃ c, s.channelMap port = some c ∧ c.recvThread = r

theorem Goes.inGlobal {isOpen : UInt32 → Prop} {pc pc' : Pc} (h : Goes isOpen pc pc') :
    pc'.InGlobal ↔ pc.InGlobal := by
  cases h <;> exact Iff.rfl

theorem Goes.holdsQueue {isOpen : UInt32 → Prop} {pc pc' : Pc} (h : Goes isOpen pc pc')
    (port : UInt32) : ¬pc.HoldsQueue port ∧ ¬pc'.HoldsQueue port := by
  cases h <;> exact ⟨id, id⟩

theorem Goes.uses {isOpen : UInt32 → Prop} {pc pc' : Pc} (h : Goes isOpen pc pc') (port : UInt32)
    (huses : pc'.Uses port) : isOpen port := by
  cases h with
  | readPop _ _ hopen =>
    obtain rfl := huses
    exact hopen
  | selectLook _ _ _ hopen =>
    obtain rfl := huses
    exact hopen
  | _ => exact absurd huses id

theorem Pc.HoldsQueue.inGlobal {pc : Pc} {port : UInt32} (h : pc.HoldsQueue port) : pc.InGlobal := by
  cases pc <;> trivial

theorem Pc.Uses.inGlobal {pc : Pc} {port : UInt32} (h : pc.Uses port) : pc.InGlobal := by
  cases pc <;> trivial

theorem Pc.HoldsQueue.uses {pc : Pc} {port : UInt32} (h : pc.HoldsQueue port) : pc.Uses port := by
  cases pc with
  | holding => exact h
  | _ => exact absurd h id

theorem LockInv.unique {s : State τ ρ} (h : LockInv s) {t u : τ} (ht : (s.pc t).InGlobal)
    (hu : (s.pc u).InGlobal) : t = u :=
  Option.some.inj (((h.globalMutex t).2 ht).symm.trans ((h.globalMutex u).2 hu))

/-! ## Every step keeps it -/

/-- Another channel sees nothing of a caller that does not take or release its mutex. -/
theorem ChannelOk.setPc [DecidableEq τ] {pc : τ → Pc} {recv : ρ → Option (UInt32 × RecvPc)}
    {port : UInt32} {c : Channel τ ρ} (h : ChannelOk pc recv port c) (t : τ) (pc' : Pc)
    (hsame : pc'.HoldsQueue port ↔ (pc t).HoldsQueue port) :
    ChannelOk (Function.update pc t pc') recv port c where
  callers u := by
    rw [h.callers u]
    by_cases hu : u = t
    · rw [hu, Function.update_self, hsame]
    · rw [Function.update_of_ne hu]
  threads := h.threads
  served := h.served

/-- And nothing of a receive thread of another port. -/
theorem ChannelOk.setRecv [DecidableEq ρ] {pc : τ → Pc} {recv : ρ → Option (UInt32 × RecvPc)}
    {port q : UInt32} {c : Channel τ ρ} (h : ChannelOk pc recv q c) (r : ρ) (rpc : RecvPc)
    (hq : q ≠ port) (hr : ∀ rpc, recv r ≠ some (q, rpc)) :
    ChannelOk pc (Function.update recv r (some (port, rpc))) q c where
  callers := h.callers
  threads r' := by
    rw [h.threads r']
    by_cases hrr : r' = r
    · rw [hrr, Function.update_self]
      exact iff_of_false (hr _) fun heq => hq (Prod.mk.inj (Option.some.inj heq)).1.symm
    · rw [Function.update_of_ne hrr]
  served := by
    obtain ⟨rpc', hserved⟩ := h.served
    have hne : c.recvThread ≠ r := by
      rintro rfl
      exact hr rpc' hserved
    exact ⟨rpc', (Function.update_of_ne hne ..).trans hserved⟩

/-- `globalMutex` stays with `t`. -/
theorem LockInv.globalMutex_setPc [DecidableEq τ] {s : State τ ρ} (h : LockInv s) (t : τ) (pc : Pc)
    (hsame : pc.InGlobal ↔ (s.pc t).InGlobal) (u : τ) :
    s.globalMutex = some u ↔ (Function.update s.pc t pc u).InGlobal := by
  rw [h.globalMutex u]
  by_cases hu : u = t
  · rw [hu, Function.update_self, hsame]
  · rw [Function.update_of_ne hu]

/-- The channels in use, after one caller's program counter changed. -/
theorem LockInv.uses_setPc [DecidableEq τ] {s : State τ ρ} (h : LockInv s) (t : τ) (pc : Pc)
    {port : UInt32} {u : τ} (hu : (Function.update s.pc t pc u).Uses port) :
    u = t ∧ pc.Uses port ∨ u ≠ t ∧ s.IsOpen port ∧ (s.pc u).Uses port := by
  by_cases hut : u = t
  · rw [hut, Function.update_self] at hu
    exact Or.inl ⟨hut, hu⟩
  · rw [Function.update_of_ne hut] at hu
    exact Or.inr ⟨hut, h.uses port u hu, hu⟩

section
variable [DecidableEq τ]

theorem lockInv_goes {s : State τ ρ} (h : LockInv s) (t : τ) (pc : Pc)
    (hgoes : Goes s.IsOpen (s.pc t) pc) : LockInv (s.setPc t pc) where
  globalMutex := h.globalMutex_setPc t pc hgoes.inGlobal
  channels port c hc := (h.channels port c hc).setPc t pc
    (iff_of_false (hgoes.holdsQueue port).2 (hgoes.holdsQueue port).1)
  uses port u hu := by
    rcases h.uses_setPc t pc hu with ⟨-, hpc⟩ | ⟨-, hopen, -⟩
    · exact hgoes.uses port hpc
    · exact hopen
  serves := h.serves

/-- What changes when `globalMutex` is taken or released: no queue and no channel in use. -/
theorem lockInv_setGlobal {s : State τ ρ} (h : LockInv s) (t : τ) (pc : Pc) (holder : Option τ)
    (hglobal : ∀ u, holder = some u ↔ (Function.update s.pc t pc u).InGlobal)
    (hold : ∀ port, ¬(s.pc t).HoldsQueue port) (hnew : ∀ port, ¬pc.Uses port) :
    LockInv ((s.setPc t pc).setGlobal holder) where
  globalMutex := hglobal
  channels port c hc := (h.channels port c hc).setPc t pc
    (iff_of_false (fun hq => hnew port hq.uses) (hold port))
  uses port u hu := by
    rcases h.uses_setPc t pc hu with ⟨-, hpc⟩ | ⟨-, hopen, -⟩
    · exact absurd hpc (hnew port)
    · exact hopen
  serves := h.serves

theorem lockInv_enter {s : State τ ρ} (h : LockInv s) (t : τ) (work : Work)
    (hpc : s.pc t = .entering work) (hfree : s.globalMutex = none) :
    LockInv ((s.setPc t (.inside work)).setGlobal (some t)) := by
  refine lockInv_setGlobal h t _ _ ?_ (fun port => by rw [hpc]; exact id) fun port => id
  intro u
  by_cases hu : u = t
  · rw [hu, Function.update_self]
    exact iff_of_true rfl trivial
  · rw [Function.update_of_ne hu, ← h.globalMutex u, hfree]
    exact iff_of_false (fun heq => hu (Option.some.inj heq).symm) nofun

theorem lockInv_leave {s : State τ ρ} (h : LockInv s) (t : τ) (hpc : s.pc t = .inside .leave) :
    LockInv ((s.setPc t .idle).setGlobal none) := by
  have ht : (s.pc t).InGlobal := by
    rw [hpc]
    trivial
  refine lockInv_setGlobal h t _ _ ?_ (fun port => by rw [hpc]; exact id) fun port => id
  intro u
  by_cases hu : u = t
  · rw [hu, Function.update_self]
    exact iff_of_false nofun id
  · rw [Function.update_of_ne hu]
    exact iff_of_false nofun fun hin => hu (h.unique hin ht)

/-- A caller with `globalMutex` changes one channel and goes on with `globalMutex` held. -/
theorem lockInv_setChannel {s : State τ ρ} (h : LockInv s) (t : τ) (pc : Pc) (port : UInt32)
    (c c' : Channel τ ρ) (hc : s.channelMap port = some c) (hrecv : c'.recvThread = c.recvThread)
    (hglobal : pc.InGlobal ↔ (s.pc t).InGlobal)
    (hother : ∀ q, q ≠ port → ¬(s.pc t).HoldsQueue q ∧ ¬pc.Uses q)
    (hok : ChannelOk (Function.update s.pc t pc) s.recv port c') :
    LockInv ((s.setPc t pc).setChannel port (some c')) where
  globalMutex := h.globalMutex_setPc t pc hglobal
  channels := by
    refine (s.setPc t pc).forall_setChannel port _ (fun d hd => Option.some.inj hd ▸ hok) ?_
    intro q hq d hd
    exact (h.channels q d hd).setPc t pc
      (iff_of_false (fun hhold => (hother q hq).2 hhold.uses) (hother q hq).1)
  uses q u hu := by
    apply (s.setPc t pc).isOpen_setChannel
    intro hq
    rcases h.uses_setPc t pc hu with ⟨-, hpc⟩ | ⟨-, hopen, -⟩
    · exact absurd hpc (hother q hq).2
    · exact hopen
  serves r q rpc hr hne :=
    (s.setPc t pc).recvThread_setChannel hc hrecv (h.serves r q rpc hr hne)

theorem lockInv_closing {s : State τ ρ} (h : LockInv s) (t : τ) (port : UInt32)
    (hpc : s.pc t = .inside (.close port)) (c : Channel τ ρ) (hc : s.channelMap port = some c) :
    LockInv ((s.setPc t (.joining port)).setChannel port (some { c with stopRequested := true })) := by
  have hok := (h.channels port c hc).setPc t (.joining port) (by rw [hpc]; exact Iff.rfl)
  refine lockInv_setChannel h t _ port c _ hc rfl (by rw [hpc]; exact Iff.rfl) ?_
    ⟨hok.callers, hok.threads, hok.served⟩
  intro q hq
  rw [hpc]
  exact ⟨id, fun heq => hq heq.symm⟩

theorem lockInv_lock {s : State τ ρ} (h : LockInv s) (t : τ) (port : UInt32) (work : Work)
    (hpc : s.pc t = .waiting port work) (c : Channel τ ρ) (hc : s.channelMap port = some c)
    (hfree : c.msgQueueMutex = none) :
    LockInv ((s.setPc t (.holding port work)).setChannel port
      (some { c with msgQueueMutex := some (.inl t) })) := by
  have hold := h.channels port c hc
  refine lockInv_setChannel h t _ port c _ hc rfl (by rw [hpc]; exact Iff.rfl) ?_
    ⟨?_, ?_, hold.served⟩
  · intro q hq
    rw [hpc]
    exact ⟨id, fun heq => hq heq.symm⟩
  · intro u
    by_cases hu : u = t
    · rw [hu, Function.update_self]
      exact iff_of_true rfl rfl
    · rw [Function.update_of_ne hu, ← hold.callers u, hfree]
      exact iff_of_false (fun heq => hu (Sum.inl.inj (Option.some.inj heq)).symm) nofun
  · intro r
    rw [← hold.threads r, hfree]
    exact iff_of_false nofun nofun

theorem lockInv_unlock {s : State τ ρ} (h : LockInv s) (t : τ) (port : UInt32) (work next : Work)
    (hpc : s.pc t = .holding port work) (c : Channel τ ρ) (hc : s.channelMap port = some c) :
    LockInv ((s.setPc t (.inside next)).setChannel port
      (some { c with msgQueueMutex := none })) := by
  have hold := h.channels port c hc
  have hheld : c.msgQueueMutex = some (.inl t) := by
    rw [hold.callers t, hpc]
    rfl
  refine lockInv_setChannel h t _ port c _ hc rfl (by rw [hpc]; exact Iff.rfl) ?_
    ⟨?_, ?_, hold.served⟩
  · intro q hq
    rw [hpc]
    exact ⟨fun heq => hq heq.symm, id⟩
  · intro u
    by_cases hu : u = t
    · rw [hu, Function.update_self]
      exact iff_of_false nofun id
    · rw [Function.update_of_ne hu, ← hold.callers u, hheld]
      exact iff_of_false nofun fun heq => hu (Sum.inl.inj (Option.some.inj heq)).symm
  · intro r
    rw [← hold.threads r, hheld]
    exact iff_of_false nofun nofun

/-- `join` returned: the channel goes, and nobody else was using it. -/
theorem lockInv_joined {s : State τ ρ} (h : LockInv s) (t : τ) (port : UInt32)
    (hpc : s.pc t = .joining port) (c : Channel τ ρ) (hc : s.channelMap port = some c)
    (hended : s.recv c.recvThread = some (port, .ended)) :
    LockInv ((s.setPc t (.inside .leave)).setChannel port none) where
  globalMutex := h.globalMutex_setPc t _ (by rw [hpc]; exact Iff.rfl)
  channels := by
    refine (s.setPc t (.inside .leave)).forall_setChannel port _ nofun ?_
    intro q hq d hd
    exact (h.channels q d hd).setPc t _ (by rw [hpc]; exact Iff.rfl)
  uses q u hu := by
    rcases h.uses_setPc t _ hu with ⟨-, hpc'⟩ | ⟨hut, -, hu⟩
    · exact absurd hpc' id
    · have ht : (s.pc t).InGlobal := by
        rw [hpc]
        trivial
      exact absurd (h.unique hu.inGlobal ht) hut
  serves r q rpc hr hne := by
    obtain ⟨d, hd, hthread⟩ := h.serves r q rpc hr hne
    have hq : q ≠ port := by
      rintro rfl
      obtain rfl : c = d := Option.some.inj (hc.symm.trans hd)
      -- the only running thread of the port has ended
      rw [hthread] at hended
      exact hne (Prod.mk.inj (Option.some.inj (hr.symm.trans hended))).2
    exact ⟨d, (State.channelMap_setChannel_of_ne _ hq _).trans hd, hthread⟩

end

section
variable [DecidableEq ρ]

/-- A new channel with a new receive thread, which nobody uses yet. -/
theorem lockInv_opened [DecidableEq τ] {s : State τ ρ} (h : LockInv s) (t : τ)
    (hpc : s.pc t = .inside .open) (port : UInt32) (hport : ¬s.IsOpen port) (r : ρ)
    (hr : s.recv r = none) :
    LockInv (((s.setPc t (.inside .leave)).setRecv r port .head).setChannel port
      (some { msgQueueMutex := none, stopRequested := false, recvThread := r })) where
  globalMutex := h.globalMutex_setPc t _ (by rw [hpc]; exact Iff.rfl)
  channels := by
    refine ((s.setPc t _).setRecv r port .head).forall_setChannel port _ ?_ ?_
    · rintro d ⟨⟩
      refine ⟨?_, ?_, .head, Function.update_self ..⟩
      · intro u
        refine iff_of_false nofun fun hhold => ?_
        rcases h.uses_setPc t _ hhold.uses with ⟨-, hpc'⟩ | ⟨-, hopen, -⟩
        · exact hpc'
        · exact hport hopen
      · intro r'
        refine iff_of_false nofun fun hhold => ?_
        have hhold : Function.update s.recv r (some (port, .head)) r' = some (port, .holding) :=
          hhold
        by_cases hrr : r' = r
        · rw [hrr, Function.update_self] at hhold
          cases hhold
        · rw [Function.update_of_ne hrr] at hhold
          obtain ⟨d, hd, -⟩ := h.serves r' port .holding hhold (by decide)
          exact hport (by unfold State.IsOpen; rw [hd]; exact Option.some_ne_none d)
    · intro q hq d hd
      refine ((h.channels q d hd).setPc t _ (by rw [hpc]; exact Iff.rfl)).setRecv r _ hq ?_
      intro rpc
      rw [hr]
      exact nofun
  uses q u hu := by
    apply ((s.setPc t _).setRecv r port .head).isOpen_setChannel
    intro _
    rcases h.uses_setPc t _ hu with ⟨-, hpc'⟩ | ⟨-, hopen, -⟩
    · exact absurd hpc' id
    · exact hopen
  serves r' q rpc hr' hne := by
    have hr' : Function.update s.recv r (some (port, .head)) r' = some (q, rpc) := hr'
    by_cases hrr : r' = r
    · rw [hrr, Function.update_self] at hr'
      obtain ⟨rfl, -⟩ := Prod.mk.inj (Option.some.inj hr')
      exact ⟨_, State.channelMap_setChannel_self .., hrr.symm⟩
    · rw [Function.update_of_ne hrr] at hr'
      obtain ⟨d, hd, hthread⟩ := h.serves r' q rpc hr' hne
      have hq : q ≠ port := by
        rintro rfl
        exact hport (by unfold State.IsOpen; rw [hd]; exact Option.some_ne_none d)
      exact ⟨d, (State.channelMap_setChannel_of_ne _ hq _).trans hd, hthread⟩

/-- A running receive thread goes on, and may take or release its `msgQueueMutex`. -/
theorem lockInv_recv {s : State τ ρ} (h : LockInv s) (r : ρ) (port : UInt32) (pc pc' : RecvPc)
    (hpc : s.recv r = some (port, pc)) (hrun : pc ≠ .ended) (c c' : Channel τ ρ)
    (hc : s.channelMap port = some c) (hrecv : c'.recvThread = c.recvThread)
    (hcallers : ∀ u, c'.msgQueueMutex = some (.inl u) ↔ c.msgQueueMutex = some (.inl u))
    (hself : c'.msgQueueMutex = some (.inr r) ↔ pc' = .holding)
    (hthreads : ∀ r', r' ≠ r → (c'.msgQueueMutex = some (.inr r') ↔
      c.msgQueueMutex = some (.inr r'))) :
    LockInv ((s.setRecv r port pc').setChannel port (some c')) where
  globalMutex := h.globalMutex
  channels := by
    have hold := h.channels port c hc
    obtain ⟨d, hd, hthread⟩ := h.serves r port pc hpc hrun
    obtain rfl : c = d := Option.some.inj (hc.symm.trans hd)
    refine (s.setRecv r port pc').forall_setChannel port _ ?_ ?_
    · rintro d ⟨⟩
      refine ⟨fun u => (hcallers u).trans (hold.callers u), ?_, pc', ?_⟩
      · intro r'
        show _ ↔ Function.update s.recv r (some (port, pc')) r' = _
        by_cases hrr : r' = r
        · rw [hrr, hself, Function.update_self, Option.some.injEq, Prod.mk.injEq,
            and_iff_right rfl]
        · rw [hthreads r' hrr, hold.threads r', Function.update_of_ne hrr]
      · rw [hrecv, hthread]
        exact Function.update_self ..
    · intro q hq d hd
      refine (h.channels q d hd).setRecv r _ hq fun rpc heq => ?_
      exact hq (Prod.mk.inj (Option.some.inj (heq.symm.trans hpc))).1
  uses q u hu := (s.setRecv r port pc').isOpen_setChannel port c' fun _ => h.uses q u hu
  serves r' q rpc hr' hne := by
    apply (s.setRecv r port pc').recvThread_setChannel hc hrecv
    have hr' : Function.update s.recv r (some (port, pc')) r' = some (q, rpc) := hr'
    by_cases hrr : r' = r
    · rw [hrr, Function.update_self] at hr'
      obtain ⟨rfl, -⟩ := Prod.mk.inj (Option.some.inj hr')
      rw [hrr]
      exact h.serves r port pc hpc hrun
    · rw [Function.update_of_ne hrr] at hr'
      exact h.serves r' q rpc hr' hne

theorem lockInv_recvGoes {s : State τ ρ} (h : LockInv s) (r : ρ) (port : UInt32) (pc pc' : RecvPc)
    (hpc : s.recv r = some (port, pc)) (c : Channel τ ρ) (hc : s.channelMap port = some c)
    (hgoes : RecvGoes c.stopRequested pc pc') : LockInv (s.setRecv r port pc') := by
  have hsame : (s.setRecv r port pc').setChannel port (some c) = s.setRecv r port pc' := by
    have hmap : Function.update s.channelMap port (some c) = s.channelMap := by
      rw [← hc, Function.update_eq_self]
    simp only [State.setRecv, State.setChannel, hmap]
  have hnot : pc ≠ .ended ∧ pc ≠ .holding ∧ pc' ≠ .holding := by
    cases hgoes <;> decide
  have hself : ¬c.msgQueueMutex = some (.inr r) := by
    rw [(h.channels port c hc).threads r, hpc]
    exact fun heq => hnot.2.1 (Prod.mk.inj (Option.some.inj heq)).2
  rw [← hsame]
  exact lockInv_recv h r port pc pc' hpc hnot.1 c c hc rfl (fun _ => Iff.rfl)
    (iff_of_false hself hnot.2.2) fun _ _ => Iff.rfl

theorem lockInv_recvLock {s : State τ ρ} (h : LockInv s) (r : ρ) (port : UInt32)
    (hpc : s.recv r = some (port, .waiting)) (c : Channel τ ρ) (hc : s.channelMap port = some c)
    (hfree : c.msgQueueMutex = none) :
    LockInv ((s.setRecv r port .holding).setChannel port
      (some { c with msgQueueMutex := some (.inr r) })) := by
  refine lockInv_recv h r port _ _ hpc (by decide) c _ hc rfl ?_ (iff_of_true rfl rfl) ?_
  · intro u
    rw [hfree]
    exact iff_of_false nofun nofun
  · intro r' hrr
    rw [hfree]
    exact iff_of_false (fun heq => hrr (Sum.inr.inj (Option.some.inj heq)).symm) nofun

theorem lockInv_recvUnlock {s : State τ ρ} (h : LockInv s) (r : ρ) (port : UInt32)
    (hpc : s.recv r = some (port, .holding)) (c : Channel τ ρ) (hc : s.channelMap port = some c) :
    LockInv ((s.setRecv r port .head).setChannel port
      (some { c with msgQueueMutex := none })) := by
  have hheld : c.msgQueueMutex = some (.inr r) := ((h.channels port c hc).threads r).2 hpc
  refine lockInv_recv h r port _ _ hpc (by decide) c _ hc rfl ?_ (iff_of_false nofun nofun) ?_
  · intro u
    rw [hheld]
    exact iff_of_false nofun nofun
  · intro r' hrr
    rw [hheld]
    exact iff_of_false nofun fun heq => hrr (Sum.inr.inj (Option.some.inj heq)).symm

end

section
variable [DecidableEq τ] [DecidableEq ρ]

theorem lockInv_step {s s' : State τ ρ} {x : τ ⊕ ρ} (h : LockInv s) (hstep : LockStep s x s') :
    LockInv s' := by
  cases hstep with
  | goes t pc hgoes => exact lockInv_goes h t pc hgoes
  | enter t work hpc hfree => exact lockInv_enter h t work hpc hfree
  | leave t hpc => exact lockInv_leave h t hpc
  | opened t hpc port hport r hr => exact lockInv_opened h t hpc port hport r hr
  | closing t port hpc c hc => exact lockInv_closing h t port hpc c hc
  | joined t port hpc c hc hended => exact lockInv_joined h t port hpc c hc hended
  | lock t port work hpc c hc hfree => exact lockInv_lock h t port work hpc c hc hfree
  | unlock t port work next hpc _ c hc => exact lockInv_unlock h t port work next hpc c hc
  | recvGoes r port pc pc' hpc c hc hgoes => exact lockInv_recvGoes h r port pc pc' hpc c hc hgoes
  | recvLock r port hpc c hc hfree => exact lockInv_recvLock h r port hpc c hc hfree
  | recvUnlock r port hpc c hc => exact lockInv_recvUnlock h r port hpc c hc

end

end Locks

end J2534Oip
