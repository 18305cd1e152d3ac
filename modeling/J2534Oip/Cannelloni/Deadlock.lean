import J2534Oip.Cannelloni.Locks

/-!
# Deadlock: nobody waits for ever

Who waits for whom: a call that wants `globalMutex` for the call that has it, a close for
the receive thread it stopped, whoever wants a `msgQueueMutex` for its holder.  Each waits
for a thread of a smaller rank, since a receive thread never wants `globalMutex` and
whoever holds a `msgQueueMutex` goes on.

    Initial s₀ → Run LockStep s₀ es s → NoDeadlock s                     (noDeadlock)

Any number of threads call, on any number of channels.
-/

namespace J2534Oip

namespace Locks

variable {τ ρ : Type*}

/-! ## Waiting -/

/-- What a thread can wait for. -/
inductive Lock (ρ : Type*)
  | globalMutex
  | msgQueueMutex (port : UInt32)
  /-- the end of a receive thread -/
  | thread (r : ρ)

/-- A thread waits for those of a smaller rank. -/
def Pc.rank : Pc → Nat
  | .entering _ => 4
  | .joining _ => 3
  | .waiting _ _ => 1
  | _ => 0

theorem Pc.rank_of_inGlobal {pc : Pc} (h : pc.InGlobal) : pc.rank < 4 := by
  cases pc with
  | entering work => exact absurd h id
  | _ => simp [rank]

theorem Pc.rank_of_holdsQueue {pc : Pc} {port : UInt32} (h : pc.HoldsQueue port) : pc.rank = 0 := by
  cases pc with
  | holding => rfl
  | _ => exact absurd h id

def RecvPc.rank : RecvPc → Nat
  | .waiting => 2
  | _ => 0

theorem RecvPc.rank_lt (pc : RecvPc) : pc.rank < 3 := by
  cases pc <;> decide

namespace State

variable (s : State τ ρ)

/-- What a thread cannot go on without. -/
def wants : τ ⊕ ρ → Option (Lock ρ)
  | .inl t =>
    match s.pc t with
    | .entering _ => some .globalMutex
    | .joining port => (s.channelMap port).map fun c => .thread c.recvThread
    | .waiting port _ => some (.msgQueueMutex port)
    | _ => none
  | .inr r =>
    match s.recv r with
    | some (port, .waiting) => some (.msgQueueMutex port)
    | _ => none

/-- Who can give it. -/
def holder : Lock ρ → Option (τ ⊕ ρ)
  | .globalMutex => s.globalMutex.map .inl
  | .msgQueueMutex port => (s.channelMap port).bind Channel.msgQueueMutex
  | .thread r => some (.inr r)

def WaitsFor (x y : τ ⊕ ρ) : Prop := ∃ lock, s.wants x = some lock ∧ s.holder lock = some y

/-- The thread has not finished. -/
def Busy : τ ⊕ ρ → Prop
  | .inl t => s.pc t ≠ .finished
  | .inr r => ∃ port pc, s.recv r = some (port, pc) ∧ pc ≠ .ended

def rank : τ ⊕ ρ → Nat
  | .inl t => (s.pc t).rank
  | .inr r => (s.recv r).elim 0 fun e => e.2.rank

end State

section
variable {s : State τ ρ}

theorem LockInv.channel (h : LockInv s) (t : τ) (port : UInt32) (huses : (s.pc t).Uses port) :
    ∃ c, s.channelMap port = some c :=
  Option.ne_none_iff_exists'.1 (h.uses port t huses)

theorem busy_of_inGlobal {t : τ} (ht : (s.pc t).InGlobal) : s.Busy (.inl t) := by
  intro hfinished
  rw [hfinished] at ht
  exact ht

theorem rank_recv {r : ρ} {port : UInt32} {pc : RecvPc} (h : s.recv r = some (port, pc)) :
    s.rank (.inr r) = pc.rank := by
  simp only [State.rank, h, Option.elim_some]

end

section
variable [DecidableEq τ] [DecidableEq ρ] {s : State τ ρ}

def State.CanStep (s : State τ ρ) (x : τ ⊕ ρ) : Prop := ∃ s', LockStep s x s'

/-- The work of a call never blocks between two locks. -/
theorem canStep_inside (t : τ) (work : Work) (hpc : s.pc t = .inside work) : s.CanStep (.inl t) := by
  have hgoes : ∀ pc, Goes s.IsOpen (.inside work) pc → s.CanStep (.inl t) :=
    fun pc h => ⟨_, .goes s t pc (hpc ▸ h)⟩
  cases work with
  | «open» => exact hgoes _ .openFails
  | close port =>
    by_cases hopen : s.IsOpen port
    · obtain ⟨c, hc⟩ := Option.ne_none_iff_exists'.1 hopen
      exact ⟨_, .closing s t port hpc c hc⟩
    · exact hgoes _ (.closeUnknown port hopen)
  | read port left =>
    by_cases hopen : s.IsOpen port
    · cases left with
      | zero => exact hgoes _ (.readFull port)
      | succ left => exact hgoes _ (.readPop port left hopen)
    · exact hgoes _ (.readUnknown port left hopen)
  | write => exact hgoes _ .write
  | select ids left =>
    cases left with
    | nil => exact hgoes _ (.selectEnd ids)
    | cons port left =>
      by_cases hopen : s.IsOpen port
      · exact hgoes _ (.selectLook ids left port hopen)
      · exact hgoes _ (.selectSkip ids left port hopen)
  | leave => exact ⟨_, .leave s t hpc⟩

/-- It can go on, or waits for a busy thread of a smaller rank. -/
def State.ReadyOrWaits (s : State τ ρ) (x : τ ⊕ ρ) : Prop :=
  s.CanStep x ∨ ∃ y, s.Busy y ∧ s.WaitsFor x y ∧ s.rank y < s.rank x

theorem readyOrWaits_entering (h : LockInv s) (t : τ) (work : Work) (hpc : s.pc t = .entering work) :
    s.ReadyOrWaits (.inl t) := by
  cases hglobal : s.globalMutex with
  | none => exact Or.inl ⟨_, .enter s t work hpc hglobal⟩
  | some u =>
    have hu : (s.pc u).InGlobal := (h.globalMutex u).1 hglobal
    refine Or.inr ⟨.inl u, busy_of_inGlobal hu, ⟨.globalMutex, ?_, ?_⟩, ?_⟩
    · simp only [State.wants, hpc]
    · simp only [State.holder, hglobal, Option.map_some]
    · have hrank : s.rank (.inl t) = 4 := congrArg Pc.rank hpc
      rw [hrank]
      exact Pc.rank_of_inGlobal hu

theorem readyOrWaits_joining (h : LockInv s) (t : τ) (port : UInt32) (hpc : s.pc t = .joining port) :
    s.ReadyOrWaits (.inl t) := by
  obtain ⟨c, hc⟩ := h.channel t port (by rw [hpc]; rfl)
  obtain ⟨rpc, hrecv⟩ := (h.channels port c hc).served
  by_cases hended : rpc = .ended
  · subst hended
    exact Or.inl ⟨_, .joined s t port hpc c hc hrecv⟩
  · refine Or.inr ⟨.inr c.recvThread, ⟨port, rpc, hrecv, hended⟩,
      ⟨.thread c.recvThread, ?_, rfl⟩, ?_⟩
    · simp only [State.wants, hpc, hc, Option.map_some]
    · have hrank : s.rank (.inl t) = 3 := congrArg Pc.rank hpc
      rw [hrank, rank_recv hrecv]
      exact rpc.rank_lt

theorem readyOrWaits_waiting (h : LockInv s) (t : τ) (port : UInt32) (work : Work)
    (hpc : s.pc t = .waiting port work) : s.ReadyOrWaits (.inl t) := by
  have ht : (s.pc t).InGlobal := by
    rw [hpc]
    trivial
  obtain ⟨c, hc⟩ := h.channel t port (by rw [hpc]; rfl)
  cases hmutex : c.msgQueueMutex with
  | none => exact Or.inl ⟨_, .lock s t port work hpc c hc hmutex⟩
  | some y =>
    cases y with
    | inl u =>
      -- the other holder of a queue would have `globalMutex` too
      have hu := ((h.channels port c hc).callers u).1 hmutex
      obtain rfl := h.unique hu.inGlobal ht
      rw [hpc] at hu
      exact absurd hu id
    | inr r =>
      have hr := ((h.channels port c hc).threads r).1 hmutex
      refine Or.inr ⟨.inr r, ⟨port, .holding, hr, by decide⟩, ⟨.msgQueueMutex port, ?_, ?_⟩, ?_⟩
      · simp only [State.wants, hpc]
      · simp only [State.holder, hc, Option.bind_some, hmutex]
      · have hrank : s.rank (.inl t) = 1 := congrArg Pc.rank hpc
        rw [hrank, rank_recv hr]
        decide

theorem readyOrWaits_caller (h : LockInv s) (t : τ) (hbusy : s.Busy (.inl t)) :
    s.ReadyOrWaits (.inl t) := by
  cases hpc : s.pc t with
  | idle => exact Or.inl ⟨_, .goes s t .finished (hpc ▸ .finish)⟩
  | finished => exact absurd hpc hbusy
  | entering work => exact readyOrWaits_entering h t work hpc
  | inside work => exact Or.inl (canStep_inside t work hpc)
  | joining port => exact readyOrWaits_joining h t port hpc
  | waiting port work => exact readyOrWaits_waiting h t port work hpc
  | holding port work =>
    obtain ⟨c, hc⟩ := h.channel t port (by rw [hpc]; rfl)
    exact Or.inl ⟨_, .unlock s t port work work hpc (Or.inl rfl) c hc⟩

theorem readyOrWaits_recv (h : LockInv s) (r : ρ) (hbusy : s.Busy (.inr r)) :
    s.ReadyOrWaits (.inr r) := by
  obtain ⟨port, rpc, hr, hrun⟩ := hbusy
  obtain ⟨c, hc, hthread⟩ := h.serves r port rpc hr hrun
  cases rpc with
  | head =>
    cases hstop : c.stopRequested with
    | true => exact Or.inl ⟨_, .recvGoes s r port _ _ hr c hc (.stop hstop)⟩
    | false => exact Or.inl ⟨_, .recvGoes s r port _ _ hr c hc (.pass hstop)⟩
  | receiving => exact Or.inl ⟨_, .recvGoes s r port _ _ hr c hc .nothing⟩
  | waiting =>
    cases hmutex : c.msgQueueMutex with
    | none => exact Or.inl ⟨_, .recvLock s r port hr c hc hmutex⟩
    | some y =>
      cases y with
      | inl t =>
        have ht := ((h.channels port c hc).callers t).1 hmutex
        refine Or.inr ⟨.inl t, busy_of_inGlobal ht.inGlobal, ⟨.msgQueueMutex port, ?_, ?_⟩, ?_⟩
        · simp only [State.wants, hr]
        · simp only [State.holder, hc, Option.bind_some, hmutex]
        · have hrank : s.rank (.inl t) = 0 := Pc.rank_of_holdsQueue ht
          rw [hrank, rank_recv hr]
          decide
      | inr r' =>
        -- the channel has one thread
        have hr' := ((h.channels port c hc).threads r').1 hmutex
        obtain ⟨c', hc', hthread'⟩ := h.serves r' port .holding hr' (by decide)
        obtain rfl : c = c' := Option.some.inj (hc.symm.trans hc')
        obtain rfl : r = r' := hthread.symm.trans hthread'
        cases hr.symm.trans hr'
  | holding => exact Or.inl ⟨_, .recvUnlock s r port hr c hc⟩
  | ended => exact absurd rfl hrun

/-- **No cyclic wait**: from each busy thread, along the waiting, one is found that can step. -/
theorem exists_canStep (h : LockInv s) (x : τ ⊕ ρ) (hbusy : s.Busy x) :
    ∃ y, Relation.ReflTransGen s.WaitsFor x y ∧ s.CanStep y := by
  refine exists_ready s.rank (fun x hx => ?_) x hbusy
  cases x with
  | inl t => exact readyOrWaits_caller h t hx
  | inr r => exact readyOrWaits_recv h r hx

end

/-! ## Runs -/

/-- No call is under way and nobody holds a lock; any channels are open, with their receive
threads anywhere in their loop. -/
structure Initial (s : State τ ρ) : Prop where
  callers : ∀ t, s.pc t = .idle
  globalMutex : s.globalMutex = none
  channels : ∀ port c, s.channelMap port = some c →
    c.msgQueueMutex = none ∧ ∃ pc, s.recv c.recvThread = some (port, pc)
  threads : ∀ r port pc, s.recv r = some (port, pc) →
    pc ≠ .holding ∧ (pc ≠ .ended → ∃ c, s.channelMap port = some c ∧ c.recvThread = r)

theorem Initial.lockInv {s : State τ ρ} (h : Initial s) : LockInv s where
  globalMutex t := by
    rw [h.globalMutex, h.callers t]
    exact iff_of_false nofun id
  channels port c hc := by
    obtain ⟨hfree, hserved⟩ := h.channels port c hc
    refine ⟨?_, ?_, hserved⟩
    · intro t
      rw [hfree, h.callers t]
      exact iff_of_false nofun id
    · intro r
      rw [hfree]
      exact iff_of_false nofun fun hr => (h.threads r port .holding hr).1 rfl
  uses port t hu := by
    rw [h.callers t] at hu
    exact absurd hu id
  serves r port pc hr := (h.threads r port pc hr).2

section
variable [DecidableEq τ] [DecidableEq ρ]

/-- A step of a receive thread is one whoever has `globalMutex`. -/
theorem lockStep_setGlobal {s s' : State τ ρ} {r : ρ} (h : LockStep s (.inr r) s')
    (holder : Option τ) : LockStep (s.setGlobal holder) (.inr r) (s'.setGlobal holder) := by
  cases h with
  | recvGoes _ port pc pc' hpc c hc hgoes =>
    exact .recvGoes (s.setGlobal holder) r port pc pc' hpc c hc hgoes
  | recvLock _ port hpc c hc hfree => exact .recvLock (s.setGlobal holder) r port hpc c hc hfree
  | recvUnlock _ port hpc c hc => exact .recvUnlock (s.setGlobal holder) r port hpc c hc

theorem canStep_setGlobal (s : State τ ρ) (r : ρ) (holder : Option τ) :
    (s.setGlobal holder).CanStep (.inr r) ↔ s.CanStep (.inr r) := by
  constructor
  · rintro ⟨s', h⟩
    exact ⟨s'.setGlobal s.globalMutex, lockStep_setGlobal h s.globalMutex⟩
  · rintro ⟨s', h⟩
    exact ⟨s'.setGlobal holder, lockStep_setGlobal h holder⟩

/-- From each busy thread the waiting leads to one that can step; a receive thread does not
wait for `globalMutex`, and steps whoever has it. -/
structure NoDeadlock (s : State τ ρ) : Prop where
  progress : ∀ x, s.Busy x → ∃ y, Relation.ReflTransGen s.WaitsFor x y ∧ s.CanStep y
  wants : ∀ r, s.wants (.inr r) ≠ some .globalMutex
  receives : ∀ r holder, (s.setGlobal holder).CanStep (.inr r) ↔ s.CanStep (.inr r)

/-- **There is no deadlock in any reachable state.** -/
theorem noDeadlock (s₀ : State τ ρ) (h₀ : Initial s₀) (es : List (τ ⊕ ρ)) (s : State τ ρ)
    (h : Run LockStep s₀ es s) : NoDeadlock s where
  progress := by
    have hinv : LockInv s := h.invariant (I := fun _ s => LockInv s) h₀.lockInv
      fun _ _ _ _ _ hinv hstep => lockInv_step hinv hstep
    exact exists_canStep hinv
  wants r := by
    simp only [State.wants]
    split <;> exact nofun
  receives r holder := canStep_setGlobal s r holder

/-- One channel with its receive thread; a caller is about to close it. -/
theorem noDeadlock_close :
    let s₀ : State Bool Unit :=
      { pc := fun _ => .idle, globalMutex := none,
        channelMap := fun port => if port = 20000 then
          some { msgQueueMutex := none, stopRequested := false, recvThread := () } else none,
        recv := fun _ => some (20000, .head) }
    NoDeadlock (s₀.setPc true (.entering (.close 20000))) := by
  intro s₀
  have hinitial : Initial s₀ := by
    refine ⟨fun _ => rfl, rfl, ?_, ?_⟩
    · intro port c hc
      obtain ⟨hport, hc⟩ := Option.ite_none_right_eq_some.1 hc
      obtain rfl := Option.some.inj hc
      rw [hport]
      exact ⟨rfl, .head, rfl⟩
    · rintro r port pc ⟨⟩
      exact ⟨by decide, fun _ => ⟨_, rfl, rfl⟩⟩
  have hstep : LockStep s₀ (.inl true) (s₀.setPc true (.entering (.close 20000))) :=
    .goes s₀ true _ (.call (.close 20000) trivial)
  exact noDeadlock s₀ hinitial [.inl true] _ (Run.start.next hstep)

end

end Locks

end J2534Oip
