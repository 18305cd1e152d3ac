import J2534Oip.Lib.Run
import J2534Oip.Settings

/-!
# Connecting to the viewer

`ExPipeClient::connect` makes up to three attempts; one that finds no pipe starts the viewer
the registry names.  Two ways leave something open for good: an attempt overwrites the handle
of a client that is connected, and the registry key stays open where the viewer does not
start.  Over any run of one client

    nothing is open after its destructor ↔
      no connect found it connected, and every viewer started         (nothing_left_iff)
-/

namespace J2534Oip

open Registry

/-! ## One attempt -/

/-- What `GetLastError` says of a failed `CreateFileA`. -/
inductive PipeError
  | fileNotFound
  | pipeBusy
  | other

/-- What the calls of one attempt return.  A new handle is none that is open. -/
structure AttemptEnv (pipes : List Nat) where
  createFile : Except PipeError { pipe : Nat // pipe ∉ pipes }
  settings : Settings
  /-- what `path` holds at first, and what is behind it -/
  stack : List UInt8
  /-- `CreateProcessA` of a command line -/
  createProcess : List UInt8 → Bool

inductive Attempt
  | opened (pipe : Nat)
  | started (commandLine : List UInt8)
  | notStarted (commandLine : List UInt8)
  /-- the pipe is busy, or no viewer is named -/
  | waited
  | failed
deriving DecidableEq

namespace Attempt

/-- `connect` returns. -/
def last : Attempt → Bool
  | opened _ => true
  | notStarted _ => true
  | failed => true
  | started _ => false
  | waited => false

/-- The handle it leaves in `pipe`. -/
def pipe : Attempt → Option Nat
  | opened pipe => some pipe
  | _ => none

/-- The registry key stays open: `RegCloseKey` comes after the return. -/
def leavesKey : Attempt → Bool
  | notStarted _ => true
  | _ => false

end Attempt

/-- A pass of the loop of `connect`. -/
def attempt {pipes : List Nat} (env : AttemptEnv pipes) : Attempt :=
  match env.createFile with
  | .ok pipe => .opened pipe.1
  | .error .fileNotFound =>
    match env.settings.openFirst [.v0404, .v0500] with
    | none => .waited
    | some values =>
      match (query values .configApplication maxPath).data with
      | none => .waited
      | some data =>
        let path := cString (data ++ env.stack.drop data.length)
        if env.createProcess path then .started path else .notStarted path
  | .error .pipeBusy => .waited
  | .error .other => .failed

/-- `maxAttempts` -/
def maxAttempts : Nat := 3

/-- The loop, at most `n` more passes. -/
def attempts {pipes : List Nat} (env : Nat → AttemptEnv pipes) : Nat → Nat → List Attempt
  | _, 0 => []
  | k, n + 1 =>
    let a := attempt (env k)
    if a.last then [a] else a :: attempts env (k + 1) n

/-! ## The client -/

/-- A client's `pipe`, and what is open because of it. -/
structure PipeState where
  pipe : Option Nat
  pipes : List Nat
  keys : Nat

namespace PipeState

def start : PipeState := { pipe := none, pipes := [], keys := 0 }

/-- The state after some attempts: each assigns `pipe`. -/
def afterAttempts (s : PipeState) (as : List Attempt) : PipeState :=
  as.foldl (fun s a =>
    { pipe := a.pipe, pipes := a.pipe.toList ++ s.pipes, keys := s.keys + a.leavesKey.toNat }) s

/-- `connect` -/
def connect (s : PipeState) (env : Nat → AttemptEnv s.pipes) : PipeState × List Attempt :=
  (s.afterAttempts (attempts env 0 maxAttempts), attempts env 0 maxAttempts)

/-- What `connect` returns after its attempts. -/
def connected (as : List Attempt) : Bool := as.any fun a => a.pipe.isSome

/-- `disconnect`, and the destructor -/
def disconnect (s : PipeState) : PipeState :=
  match s.pipe with
  | none => s
  | some pipe => { s with pipe := none, pipes := s.pipes.erase pipe }

end PipeState

/-- What a step shows. -/
inductive PipeAct
  | connect (before : Option Nat) (as : List Attempt)
  | disconnect

/-- The attempts of an act. -/
def PipeAct.attempts : PipeAct → List Attempt
  | .connect _ as => as
  | .disconnect => []

/-- A connect of a client that is connected. -/
def PipeAct.overwrites : PipeAct → Bool
  | .connect before _ => before.isSome
  | .disconnect => false

inductive PipeStep : PipeState → PipeAct → PipeState → Prop
  | connect (s : PipeState) (env : Nat → AttemptEnv s.pipes) :
      PipeStep s (.connect s.pipe (s.connect env).2) (s.connect env).1
  | disconnect (s : PipeState) : PipeStep s .disconnect s.disconnect

/-! ## The attempts of a connect -/

/-- Some attempts that go on, and one that is the last: of `n` or for good. -/
theorem attempts_spec {pipes : List Nat} (env : Nat → AttemptEnv pipes) (k n : Nat) :
    ∃ before a, attempts env k (n + 1) = before ++ [a] ∧ before.length ≤ n ∧
      (∀ b ∈ before, b.last = false) ∧ ∀ pipe, a.pipe = some pipe → pipe ∉ pipes := by
  have hfresh : ∀ k pipe, (attempt (env k)).pipe = some pipe → pipe ∉ pipes := by
    intro k pipe hpipe
    unfold attempt at hpipe
    cases hcreate : (env k).createFile with
    | ok new =>
      rw [hcreate] at hpipe
      obtain rfl : new.1 = pipe := Option.some.inj hpipe
      exact new.2
    | error err =>
      rw [hcreate] at hpipe
      cases err with
      | fileNotFound =>
        simp only at hpipe
        repeat' split at hpipe
        all_goals cases hpipe
      | pipeBusy => cases hpipe
      | other => cases hpipe
  induction n generalizing k with
  | zero =>
    refine ⟨[], attempt (env k), ?_, Nat.le_refl 0, by simp, hfresh k⟩
    simp [attempts]
  | succ n ih =>
    obtain ⟨before, a, heq, hlen, hbefore, hnew⟩ := ih (k + 1)
    cases ha : (attempt (env k)).last with
    | true =>
      refine ⟨[], attempt (env k), ?_, Nat.zero_le _, by simp, hfresh k⟩
      rw [attempts]
      simp only [ha, if_true, List.nil_append]
    | false =>
      refine ⟨attempt (env k) :: before, a, ?_, Nat.succ_le_succ hlen,
        List.forall_mem_cons.2 ⟨ha, hbefore⟩, hnew⟩
      rw [attempts, heq]
      simp only [ha, Bool.false_eq_true, if_false, List.cons_append]

theorem pipe_of_not_last (a : Attempt) (h : a.last = false) : a.pipe = none ∧ a.leavesKey = false := by
  cases a with
  | started commandLine => exact ⟨rfl, rfl⟩
  | waited => exact ⟨rfl, rfl⟩
  | opened pipe => cases h
  | notStarted commandLine => cases h
  | failed => cases h

namespace PipeState

/-- Attempts that go on leave nothing, and take the handle out of `pipe`. -/
theorem afterAttempts_before (s : PipeState) (before : List Attempt)
    (h : ∀ b ∈ before, b.last = false) :
    (s.afterAttempts before).pipes = s.pipes ∧ (s.afterAttempts before).keys = s.keys := by
  induction before generalizing s with
  | nil => exact ⟨rfl, rfl⟩
  | cons b before ih =>
    obtain ⟨hb, hbefore⟩ := List.forall_mem_cons.1 h
    obtain ⟨hpipe, hkeys⟩ := pipe_of_not_last b hb
    obtain ⟨hpipes, hkept⟩ :=
      ih ⟨b.pipe, b.pipe.toList ++ s.pipes, s.keys + b.leavesKey.toNat⟩ hbefore
    refine ⟨hpipes.trans ?_, hkept.trans ?_⟩
    · rw [hpipe]
      rfl
    · rw [hkeys]
      rfl

/-- What a connect does is what its last attempt does. -/
theorem connect_spec (s : PipeState) (env : Nat → AttemptEnv s.pipes) :
    ∃ before a, (s.connect env).2 = before ++ [a] ∧ before.length < maxAttempts ∧
      (∀ b ∈ before, b.last = false) ∧ (∀ pipe, a.pipe = some pipe → pipe ∉ s.pipes) ∧
      (s.connect env).1 =
        { pipe := a.pipe, pipes := a.pipe.toList ++ s.pipes, keys := s.keys + a.leavesKey.toNat } := by
  obtain ⟨before, a, heq, hlen, hbefore, hnew⟩ := attempts_spec env 0 2
  refine ⟨before, a, heq, Nat.lt_succ_of_le hlen, hbefore, hnew, ?_⟩
  obtain ⟨hpipes, hkeys⟩ := s.afterAttempts_before before hbefore
  show s.afterAttempts (attempts env 0 (2 + 1)) = _
  rw [heq]
  unfold afterAttempts at hpipes hkeys ⊢
  rw [List.foldl_append, List.foldl_cons, List.foldl_nil, hpipes, hkeys]

end PipeState

/-! ## The accounts of a run -/

/-- Connects that found the client connected. -/
def overwritten (acts : List PipeAct) : Nat := acts.countP PipeAct.overwrites

/-- Attempts that left the registry key open. -/
def keysLeft (acts : List PipeAct) : Nat :=
  (acts.flatMap PipeAct.attempts).countP Attempt.leavesKey

/-- What is open: the pipe in use, those overwritten, and the keys left. -/
structure Accounts (acts : List PipeAct) (s : PipeState) : Prop where
  inUse : ∀ pipe, s.pipe = some pipe → pipe ∈ s.pipes
  pipes : s.pipes.length = s.pipe.toList.length + overwritten acts
  keys : s.keys = keysLeft acts

theorem accounts_step (acts : List PipeAct) (s s' : PipeState) (act : PipeAct)
    (h : Accounts acts s) (hstep : PipeStep s act s') : Accounts (acts ++ [act]) s' := by
  have hpipes := h.pipes
  have hkeys := h.keys
  cases hstep with
  | connect env =>
    obtain ⟨before, a, heq, -, hbefore, -, hconnect⟩ := s.connect_spec env
    have hleft : keysLeft (acts ++ [.connect s.pipe (s.connect env).2]) =
        keysLeft acts + a.leavesKey.toNat := by
      have hzero : before.countP Attempt.leavesKey = 0 := by
        rw [List.countP_eq_zero]
        intro b hb
        simp [(pipe_of_not_last b (hbefore b hb)).2]
      unfold keysLeft
      rw [List.flatMap_append, List.countP_append, List.flatMap_singleton]
      show _ + (s.connect env).2.countP Attempt.leavesKey = _
      rw [heq, List.countP_append, hzero]
      cases a.leavesKey.eq_false_or_eq_true with
      | inl hkey => simp [hkey]
      | inr hkey => simp [hkey]
    have hover : overwritten (acts ++ [.connect s.pipe (s.connect env).2]) =
        overwritten acts + s.pipe.toList.length := by
      unfold overwritten
      rw [List.countP_append]
      cases s.pipe <;> rfl
    rw [hconnect]
    constructor
    · intro pipe hpipe
      have hpipe : a.pipe = some pipe := hpipe
      rw [hpipe]
      exact List.mem_cons_self
    · rw [hover, List.length_append]
      show a.pipe.toList.length + _ = a.pipe.toList.length + _
      omega
    · rw [hleft]
      show s.keys + a.leavesKey.toNat = _
      rw [hkeys]
  | disconnect =>
    have hover : overwritten (acts ++ [.disconnect]) = overwritten acts := by
      simp [overwritten, PipeAct.overwrites]
    have hleft : keysLeft (acts ++ [.disconnect]) = keysLeft acts := by
      simp [keysLeft, PipeAct.attempts]
    unfold PipeState.disconnect
    cases hpipe : s.pipe with
    | none => exact ⟨by simp [hpipe], by rw [hover, hpipes], by rw [hleft, hkeys]⟩
    | some pipe =>
      refine ⟨by simp, ?_, by rw [hleft]; exact hkeys⟩
      rw [hpipe] at hpipes
      show (s.pipes.erase pipe).length = 0 + _
      rw [List.length_erase_of_mem (h.inUse pipe hpipe), hover, hpipes]
      simp

theorem accounts_run (acts : List PipeAct) (s : PipeState)
    (h : Run PipeStep PipeState.start acts s) : Accounts acts s := by
  refine h.invariant ⟨nofun, rfl, rfl⟩ ?_
  intro acts s act s' _ hs hstep
  exact accounts_step acts s s' act hs hstep

/-! ## Main result -/

/-- **What a client leaves open.**  Over any run of connects and disconnects, and the
destructor: nothing, exactly if no connect found the client connected and every viewer that
was to be started did. -/
theorem nothing_left_iff (acts : List PipeAct) (s : PipeState)
    (h : Run PipeStep PipeState.start acts s) :
    s.disconnect.pipes = [] ∧ s.disconnect.keys = 0 ↔
      ∀ before as, .connect before as ∈ acts →
        before = none ∧ ∀ commandLine, .notStarted commandLine ∉ as := by
  have haccounts := accounts_run acts s h
  have hpipes : s.disconnect.pipes.length = overwritten acts := by
    have hlen := haccounts.pipes
    unfold PipeState.disconnect
    cases hpipe : s.pipe with
    | none =>
      rw [hpipe] at hlen
      simpa using hlen
    | some pipe =>
      rw [hpipe] at hlen
      show (s.pipes.erase pipe).length = _
      rw [List.length_erase_of_mem (haccounts.inUse pipe hpipe), hlen]
      simp
  have hkeys : s.disconnect.keys = keysLeft acts := by
    rw [← haccounts.keys]
    unfold PipeState.disconnect
    cases s.pipe <;> rfl
  rw [← List.length_eq_zero_iff, hpipes, hkeys, overwritten, keysLeft, List.countP_eq_zero,
    List.countP_eq_zero]
  constructor
  · rintro ⟨hover, hleft⟩ before as hmem
    refine ⟨by simpa [PipeAct.overwrites] using hover _ hmem, fun commandLine hfailed => ?_⟩
    exact hleft _ (List.mem_flatMap.2 ⟨_, hmem, hfailed⟩) rfl
  · intro hall
    refine ⟨fun act hact => ?_, fun a ha => ?_⟩
    · cases act with
      | connect before as => simp [PipeAct.overwrites, (hall before as hact).1]
      | disconnect => exact Bool.false_ne_true
    · obtain ⟨act, hact, ha⟩ := List.mem_flatMap.1 ha
      cases act with
      | connect before as =>
        cases a with
        | notStarted commandLine => exact absurd ha ((hall before as hact).2 commandLine)
        | opened pipe => exact Bool.false_ne_true
        | started commandLine => exact Bool.false_ne_true
        | waited => exact Bool.false_ne_true
        | failed => exact Bool.false_ne_true
      | disconnect => cases ha

/-- No pipe, and the viewer the registry names is not there: the key stays open. -/
theorem nothing_left_iff_noViewer :
    let env : AttemptEnv [] :=
      { createFile := .error .fileNotFound
        settings :=
          { key := fun _ => some fun
              | .configApplication => some (utf8 "viewer.exe" ++ [0])
              | _ => none
            missing := id }
        stack := []
        createProcess := fun _ => false }
    let s := (PipeState.start.connect fun _ => env).1
    (PipeState.start.connect fun _ => env).2 = [.notStarted (utf8 "viewer.exe")] ∧
      ¬(s.disconnect.pipes = [] ∧ s.disconnect.keys = 0) := by
  intro env s
  have has : (PipeState.start.connect fun _ => env).2 = [.notStarted (utf8 "viewer.exe")] := by
    decide
  have hrun : Run PipeStep PipeState.start [.connect none [.notStarted (utf8 "viewer.exe")]] s :=
    has ▸ Run.start.next (PipeStep.connect PipeState.start fun _ => env)
  refine ⟨has, fun hnothing => ?_⟩
  exact ((nothing_left_iff _ s hrun).1 hnothing none _ List.mem_cons_self).2 _ List.mem_cons_self

end J2534Oip
