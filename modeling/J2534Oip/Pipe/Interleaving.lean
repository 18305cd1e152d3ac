import J2534Oip.Lib.Run
import J2534Oip.Pipe.Client
import Mathlib.Data.List.Permutation
import Mathlib.Logic.Function.Basic

/-!
# Several threads, one pipe

Every `PassThru` function of a `J2534CannelloniClient` sends its log record over the client's one
`ExPipeClient`, and a send is two writes.  Ten functions hold `globalMutex` around theirs,
the others do not.  As long as no send begins between the two writes of another one, unless
`globalMutex` separates them, the pipe is a concatenation of frames, with the length of the
one in progress behind them:

    Run (ApartStep L) ApiState.start acts s →
      s.pipe = (sentBodies acts).flatMap frame ++ …                    (pipe_isFrames)

Two functions without the mutex can break it (`pipe_isFrames_overlap`).
-/

namespace J2534Oip

open Bytes ExPipeClient

/-! ## Threads -/

/-- The functions that start with `std::lock_guard<std::mutex> lock(globalMutex)`. -/
def takesGlobalMutex : FuncName → Bool
  | .passThruOpen | .passThruClose | .passThruConnect | .passThruReadMsgs | .passThruWriteMsgs
  | .passThruGetLastError | .passThruGetNextCarDAQ | .passThruScanForDevices
  | .passThruGetNextDevice | .passThruSelect => true
  | _ => false

/-- Where a thread is. -/
inductive Pc
  | idle
  /-- called, waiting for `globalMutex` -/
  | waiting (f : FuncName)
  | running (f : FuncName)
  /-- between the two `WriteFile` calls of a send -/
  | sending (f : FuncName) (body : List UInt8)

/-- The function a thread is past the lock of. -/
def Pc.inside : Pc → Option FuncName
  | .running f => some f
  | .sending f _ => some f
  | _ => none

/-- What is still to be written of a thread's send. -/
def Pc.pending : Pc → Option (List UInt8)
  | .sending _ body => some body
  | _ => none

structure ApiState (τ : Type*) where
  pc : τ → Pc
  globalMutex : Option τ
  pipe : List UInt8

inductive ApiAct (τ : Type*)
  | quiet
  | size (t : τ) (body : List UInt8)
  | body (t : τ) (body : List UInt8)

variable {τ : Type*} [DecidableEq τ]

namespace ApiState

def start : ApiState τ := { pc := fun _ => .idle, globalMutex := none, pipe := [] }

def setPc (s : ApiState τ) (t : τ) (pc : Pc) : ApiState τ :=
  { s with pc := Function.update s.pc t pc }

/-- `WriteFile` -/
def writeFile (s : ApiState τ) (bytes : List UInt8) : ApiState τ := { s with pipe := s.pipe ++ bytes }

end ApiState

/-- One atomic step of one thread.  A function makes any number of sends, of any messages. -/
inductive ApiStep (L : CborLink) : ApiState τ → ApiAct τ → ApiState τ → Prop
  | call (s : ApiState τ) (t : τ) (f : FuncName) (h : s.pc t = .idle) :
      ApiStep L s .quiet (s.setPc t (if takesGlobalMutex f then .waiting f else .running f))
  | lock (s : ApiState τ) (t : τ) (f : FuncName) (h : s.pc t = .waiting f)
      (hfree : s.globalMutex = none) :
      ApiStep L s .quiet { s.setPc t (.running f) with globalMutex := some t }
  | writeSize (s : ApiState τ) (t : τ) (f : FuncName) (h : s.pc t = .running f) (msg : Message)
      (cbor : List UInt8) (hw : L.encoderWrite (messageMap msg) = some cbor) :
      ApiStep L s (.size t cbor) ((s.writeFile (leBytes 4 cbor.length)).setPc t (.sending f cbor))
  | writeBody (s : ApiState τ) (t : τ) (f : FuncName) (cbor : List UInt8)
      (h : s.pc t = .sending f cbor) :
      ApiStep L s (.body t cbor) ((s.writeFile cbor).setPc t (.running f))
  | ret (s : ApiState τ) (t : τ) (f : FuncName) (h : s.pc t = .running f) :
      ApiStep L s .quiet
        { s.setPc t .idle with globalMutex := if takesGlobalMutex f then none else s.globalMutex }

/-- The bodies of the sends that ran, in the order of their second writes. -/
def sentBodies : List (ApiAct τ) → List (List UInt8)
  | [] => []
  | .quiet :: acts => sentBodies acts
  | .size _ _ :: acts => sentBodies acts
  | .body _ cbor :: acts => cbor :: sentBodies acts

/-- A send that begins while another thread is inside one: both functions hold `globalMutex`. -/
def SendsApart (s : ApiState τ) : ApiAct τ → Prop
  | .size t _ => ∀ u f g, u ≠ t → (s.pc t).inside = some f → (s.pc u).inside = some g →
      (s.pc u).pending ≠ none → takesGlobalMutex f = true ∧ takesGlobalMutex g = true
  | _ => True

def ApartStep (L : CborLink) (s : ApiState τ) (act : ApiAct τ) (s' : ApiState τ) : Prop :=
  ApiStep L s act s' ∧ SendsApart s act

/-! ## Mutual exclusion -/

/-- Whoever is inside a function that takes the mutex holds it. -/
def Excludes (s : ApiState τ) : Prop :=
  ∀ t f, (s.pc t).inside = some f → takesGlobalMutex f = true → s.globalMutex = some t

@[simp] theorem ApiState.setPc_self (s : ApiState τ) (t : τ) (pc : Pc) : (s.setPc t pc).pc t = pc := by
  simp [setPc]

theorem ApiState.setPc_other (s : ApiState τ) {t u : τ} (h : u ≠ t) (pc : Pc) :
    (s.setPc t pc).pc u = s.pc u := by
  simp [setPc, h]

/-- A step of `t` that is inside no more than before, with the mutex as it was. -/
theorem excludes_setPc {s s' : ApiState τ} (h : Excludes s) (t : τ) (pc : Pc)
    (hpc : s'.pc = (s.setPc t pc).pc) (hmutex : s'.globalMutex = s.globalMutex)
    (hinside : ∀ f, pc.inside = some f → takesGlobalMutex f = true → (s.pc t).inside = some f) :
    Excludes s' := by
  intro u f hu hf
  rw [hmutex]
  rw [hpc] at hu
  by_cases hut : u = t
  · subst hut
    rw [s.setPc_self] at hu
    exact h u f (hinside f hu hf) hf
  · rw [s.setPc_other hut] at hu
    exact h u f hu hf

theorem excludes_step {L : CborLink} {s s' : ApiState τ} {act : ApiAct τ} (h : Excludes s)
    (hstep : ApiStep L s act s') : Excludes s' := by
  cases hstep with
  | call t f hpc =>
    refine excludes_setPc h t _ rfl rfl fun g hg htakes => ?_
    cases hf : takesGlobalMutex f with
    | true => simp [hf, Pc.inside] at hg
    | false =>
      obtain rfl : f = g := by simpa [hf, Pc.inside] using hg
      rw [hf] at htakes
      cases htakes
  | lock t f hpc hfree =>
    intro u g hu hg
    show some t = some u
    by_cases hut : u = t
    · rw [hut]
    · have hheld := h u g (by rw [← s.setPc_other hut (.running f)]; exact hu) hg
      rw [hfree] at hheld
      cases hheld
  | writeSize t f hpc msg cbor hw =>
    refine excludes_setPc h t (.sending f cbor) rfl rfl fun g hg _ => ?_
    rw [hpc]
    exact hg
  | writeBody t f cbor hpc =>
    refine excludes_setPc h t (.running f) rfl rfl fun g hg _ => ?_
    rw [hpc]
    exact hg
  | ret t f hpc =>
    intro u g hu hg
    by_cases hut : u = t
    · subst hut
      have hidle : (s.setPc u .idle).pc u = .idle := s.setPc_self u .idle
      rw [hidle] at hu
      cases hu
    · have hheld := h u g (by rw [← s.setPc_other hut .idle]; exact hu) hg
      cases hf : takesGlobalMutex f with
      | false => simpa [hf] using hheld
      | true =>
        -- then `t` held the mutex, and so did `u`
        have hmine := h t f (by rw [hpc]; rfl) hf
        rw [hheld] at hmine
        exact absurd (Option.some.inj hmine) hut

/-! ## Frames -/

/-- At most one send is in progress, and the pipe holds the frames of those that ran and
the length of that one. -/
structure Frames (s : ApiState τ) (sent : List (List UInt8)) : Prop where
  excludes : Excludes s
  single : ∀ t u, (s.pc t).pending ≠ none → (s.pc u).pending ≠ none → t = u
  between : (∀ t, (s.pc t).pending = none) → s.pipe = sent.flatMap frame
  during : ∀ t cbor, (s.pc t).pending = some cbor →
    s.pipe = sent.flatMap frame ++ leBytes 4 cbor.length

omit [DecidableEq τ] in
theorem frames_start : Frames (ApiState.start : ApiState τ) [] where
  excludes := by
    intro t f hf
    cases hf
  single := fun t u ht => absurd rfl ht
  between := fun _ => rfl
  during := by
    intro t cbor hcbor
    cases hcbor

omit [DecidableEq τ] in
/-- A step that writes nothing and leaves no send open. -/
theorem frames_quiet {s s' : ApiState τ} {sent : List (List UInt8)} (h : Frames s sent)
    (hex : Excludes s') (hpipe : s'.pipe = s.pipe)
    (hpending : ∀ u, (s'.pc u).pending = (s.pc u).pending) : Frames s' sent where
  excludes := hex
  single := by
    intro t u ht hu
    rw [hpending] at ht hu
    exact h.single t u ht hu
  between := by
    intro hnone
    rw [hpipe]
    exact h.between fun t => by rw [← hpending]; exact hnone t
  during := by
    intro t cbor hcbor
    rw [hpending] at hcbor
    rw [hpipe]
    exact h.during t cbor hcbor

theorem pending_setPc (s : ApiState τ) (t : τ) (pc : Pc) (h : pc.pending = (s.pc t).pending)
    (u : τ) : ((s.setPc t pc).pc u).pending = (s.pc u).pending := by
  by_cases hut : u = t
  · rw [hut, s.setPc_self, h]
  · rw [s.setPc_other hut]

/-- Between its writes a thread is inside its function. -/
theorem Pc.inside_of_pending {pc : Pc} (h : pc.pending ≠ none) : ∃ f, pc.inside = some f := by
  cases pc with
  | sending f body => exact ⟨f, rfl⟩
  | running f => exact ⟨f, rfl⟩
  | idle => exact absurd rfl h
  | waiting f => exact absurd rfl h

omit [DecidableEq τ] in
/-- A send that begins apart from the others begins when no other is in progress. -/
theorem pending_of_sendsApart {s : ApiState τ} (h : Excludes s) (t : τ) (f : FuncName)
    (hpc : s.pc t = .running f) (cbor : List UInt8) (hapart : SendsApart s (.size t cbor)) (u : τ) :
    (s.pc u).pending = none := by
  have hinside : (s.pc t).inside = some f := by rw [hpc]; rfl
  by_cases hut : u = t
  · rw [hut, hpc]
    rfl
  · by_contra hpend
    obtain ⟨g, hg⟩ := Pc.inside_of_pending hpend
    obtain ⟨hf, hg'⟩ := hapart u f g hut hinside hg hpend
    have ht := h t f hinside hf
    have hu := h u g hg hg'
    rw [ht] at hu
    exact hut (Option.some.inj hu).symm

theorem frames_writeSize {s : ApiState τ} {sent : List (List UInt8)} (h : Frames s sent)
    (t : τ) (f : FuncName) (hpc : s.pc t = .running f) (cbor : List UInt8)
    (hapart : SendsApart s (.size t cbor))
    (hex : Excludes ((s.writeFile (leBytes 4 cbor.length)).setPc t (.sending f cbor))) :
    Frames ((s.writeFile (leBytes 4 cbor.length)).setPc t (.sending f cbor)) sent := by
  have hnone := pending_of_sendsApart h.excludes t f hpc cbor hapart
  have hother : ∀ u, u ≠ t →
      (((s.writeFile (leBytes 4 cbor.length)).setPc t (.sending f cbor)).pc u).pending = none := by
    intro u hut
    rw [ApiState.setPc_other _ hut]
    exact hnone u
  refine ⟨hex, ?_, ?_, ?_⟩
  · intro u v hu hv
    by_cases hut : u = t
    · by_cases hvt : v = t
      · rw [hut, hvt]
      · exact absurd (hother v hvt) hv
    · exact absurd (hother u hut) hu
  · intro hall
    have ht := hall t
    rw [ApiState.setPc_self] at ht
    cases ht
  · intro u b hb
    by_cases hut : u = t
    · rw [hut, ApiState.setPc_self] at hb
      obtain rfl := Option.some.inj hb
      show s.pipe ++ leBytes 4 cbor.length = _
      rw [h.between hnone]
    · rw [hother u hut] at hb
      cases hb

/-- The body completes the frame. -/
theorem frames_writeBody {s : ApiState τ} {sent : List (List UInt8)} (h : Frames s sent)
    (t : τ) (f : FuncName) (cbor : List UInt8) (hpc : s.pc t = .sending f cbor)
    (hex : Excludes ((s.writeFile cbor).setPc t (.running f))) :
    Frames ((s.writeFile cbor).setPc t (.running f)) (sent ++ [cbor]) := by
  have hpend : (s.pc t).pending = some cbor := by rw [hpc]; rfl
  have hnone : ∀ u, (((s.writeFile cbor).setPc t (.running f)).pc u).pending = none := by
    intro u
    by_cases hut : u = t
    · rw [hut, ApiState.setPc_self]
      rfl
    · rw [ApiState.setPc_other _ hut]
      by_contra hu
      exact hut (h.single u t hu (by rw [hpend]; exact Option.some_ne_none _))
  refine ⟨hex, ?_, ?_, ?_⟩
  · intro u v hu
    exact absurd (hnone u) hu
  · intro _
    show s.pipe ++ cbor = _
    rw [h.during t cbor hpend, List.flatMap_append, List.append_assoc]
    simp [frame]
  · intro u b hb
    rw [hnone u] at hb
    cases hb

omit [DecidableEq τ] in
theorem sentBodies_append (acts acts' : List (ApiAct τ)) :
    sentBodies (acts ++ acts') = sentBodies acts ++ sentBodies acts' := by
  induction acts with
  | nil => rfl
  | cons act acts ih => cases act <;> simp [sentBodies, ih]

theorem frames_step {L : CborLink} {s s' : ApiState τ} {act : ApiAct τ}
    {acts : List (ApiAct τ)} (h : Frames s (sentBodies acts)) (hstep : ApiStep L s act s')
    (hapart : SendsApart s act) : Frames s' (sentBodies (acts ++ [act])) := by
  have hex := excludes_step h.excludes hstep
  rw [sentBodies_append]
  cases hstep with
  | call t f hpc =>
    rw [sentBodies, sentBodies, List.append_nil]
    refine frames_quiet h hex rfl (pending_setPc s t _ ?_)
    rw [hpc]
    split <;> rfl
  | lock t f hpc hfree =>
    rw [sentBodies, sentBodies, List.append_nil]
    refine frames_quiet h hex rfl (pending_setPc s t _ ?_)
    rw [hpc]
    rfl
  | writeSize t f hpc msg cbor hw =>
    rw [sentBodies, sentBodies, List.append_nil]
    exact frames_writeSize h t f hpc cbor hapart hex
  | writeBody t f cbor hpc => exact frames_writeBody h t f cbor hpc hex
  | ret t f hpc =>
    rw [sentBodies, sentBodies, List.append_nil]
    refine frames_quiet h hex rfl (pending_setPc s t _ ?_)
    rw [hpc]
    rfl

/-- **The log stream stays a stream of frames** in every run whose sends are apart: one frame
for each send that ran, and the length of the one in progress. -/
theorem pipe_isFrames (L : CborLink) (acts : List (ApiAct τ)) (s : ApiState τ)
    (h : Run (ApartStep L) ApiState.start acts s) :
    ((∀ t, (s.pc t).pending = none) → s.pipe = (sentBodies acts).flatMap frame) ∧
      ∀ t cbor, (s.pc t).pending = some cbor →
        s.pipe = (sentBodies acts).flatMap frame ++ leBytes 4 cbor.length := by
  have hframes : Frames s (sentBodies acts) := by
    refine h.invariant (I := fun acts s => Frames s (sentBodies acts)) frames_start ?_
    rintro acts s act s' _ hf ⟨hstep, hapart⟩
    exact frames_step hf hstep hapart
  exact ⟨hframes.between, hframes.during⟩

/-- The log records of a `PassThruConnect`, of a `PassThruDisconnect` and of a `PassThruIoctl` of
channel 20000. -/
def connectRecord : Message :=
  { id := 0x1234, type := 4, dataType := 2, timestamp := 1700000000000, path := utf8 "ecu.exe"
    message := utf8 "PassThruConnect"
    data := Cbor.encode (.map [(.int 0, .int 23), (.int 1, .int 20000), (.int 2, .int 5),
      (.int 3, .int 0), (.int 4, .int 500000), (.int 5, .int 20000), (.int 9, .int 0)]) }

def disconnectRecord : Message :=
  { id := 0x1234, type := 4, dataType := 2, timestamp := 1700000000000, path := utf8 "ecu.exe"
    message := utf8 "PassThruConnect"
    data := Cbor.encode (.map [(.int 0, .int 24), (.int 1, .int 20000), (.int 9, .int 0)]) }

def ioctlRecord : Message :=
  { id := 0x1234, type := 4, dataType := 2, timestamp := 1700000000000, path := utf8 "ecu.exe"
    message := utf8 "PassThruIoctl"
    data := Cbor.encode (.map [(.int 0, .int 26), (.int 1, .int 20000), (.int 2, .int 3),
      (.int 3, .int 0), (.int 4, .int 0), (.int 9, .int 0)]) }

/-- Two threads: both connect, the second waits for the mutex while the first sends; then one
disconnects while the other is in `PassThruIoctl`, and they send one after the other. -/
theorem pipe_isFrames_apart :
    let cbor := Cbor.encode (messageMap connectRecord)
    let cbor' := Cbor.encode (messageMap disconnectRecord)
    let cbor'' := Cbor.encode (messageMap ioctlRecord)
    ∃ (acts : List (ApiAct Bool)) (s : ApiState Bool),
      Run (ApartStep .rfc8949) ApiState.start acts s ∧
        acts.filter (fun act => act matches .size _ _ | .body _ _) =
          [.size true cbor, .body true cbor, .size false cbor, .body false cbor,
            .size true cbor', .body true cbor', .size false cbor'', .body false cbor''] ∧
        s.pipe = frame cbor ++ frame cbor ++ frame cbor' ++ frame cbor'' := by
  intro cbor cbor' cbor''
  have hconnect : Run (ApartStep .rfc8949) (ApiState.start : ApiState Bool) _ _ :=
    Run.start.next ⟨ApiStep.call _ true .passThruConnect rfl, trivial⟩
  have hlock := hconnect.next ⟨ApiStep.lock _ true .passThruConnect rfl rfl, trivial⟩
  have hwait := hlock.next ⟨ApiStep.call _ false .passThruConnect rfl, trivial⟩
  have hsize := hwait.next ⟨ApiStep.writeSize _ true .passThruConnect rfl connectRecord cbor rfl,
    fun u _ _ _ _ _ hpending => by cases u <;> exact absurd rfl hpending⟩
  have hbody := hsize.next ⟨ApiStep.writeBody _ true .passThruConnect cbor rfl, trivial⟩
  have hret := hbody.next ⟨ApiStep.ret _ true .passThruConnect rfl, trivial⟩
  have hlock' := hret.next ⟨ApiStep.lock _ false .passThruConnect rfl rfl, trivial⟩
  have hsize' := hlock'.next
    ⟨ApiStep.writeSize _ false .passThruConnect rfl connectRecord cbor rfl,
      fun u _ _ _ _ _ hpending => by cases u <;> exact absurd rfl hpending⟩
  have hbody' := hsize'.next ⟨ApiStep.writeBody _ false .passThruConnect cbor rfl, trivial⟩
  have hret' := hbody'.next ⟨ApiStep.ret _ false .passThruConnect rfl, trivial⟩
  have hcall := hret'.next ⟨ApiStep.call _ true .passThruDisconnect rfl, trivial⟩
  have hcall' := hcall.next ⟨ApiStep.call _ false .passThruIoctl rfl, trivial⟩
  have hsize := hcall'.next
    ⟨ApiStep.writeSize _ true .passThruDisconnect rfl disconnectRecord cbor' rfl,
      fun u _ _ _ _ _ hpending => by cases u <;> exact absurd rfl hpending⟩
  have hbody := hsize.next ⟨ApiStep.writeBody _ true .passThruDisconnect cbor' rfl, trivial⟩
  have hsize' := hbody.next ⟨ApiStep.writeSize _ false .passThruIoctl rfl ioctlRecord cbor'' rfl,
    fun u _ _ _ _ _ hpending => by cases u <;> exact absurd rfl hpending⟩
  have hbody' := hsize'.next ⟨ApiStep.writeBody _ false .passThruIoctl cbor'' rfl, trivial⟩
  refine ⟨_, _, hbody', rfl, ?_⟩
  rw [(pipe_isFrames .rfc8949 _ _ hbody').1 fun t => by cases t <;> rfl]
  simp [sentBodies]

/-- `PassThruDisconnect` and `PassThruIoctl` take no mutex: both lengths go out before both
bodies, and the pipe is not a concatenation of the two frames in any order. -/
theorem pipe_isFrames_overlap :
    ¬∀ (acts : List (ApiAct Bool)) (s : ApiState Bool),
      Run (ApiStep .rfc8949) ApiState.start acts s → (∀ t, (s.pc t).pending = none) →
        ∃ bodies : List (List UInt8), bodies.Perm (sentBodies acts) ∧ s.pipe = bodies.flatMap frame := by
  intro h
  have hcall := Run.start.next (ApiStep.call (L := .rfc8949) (ApiState.start : ApiState Bool) false
    .passThruDisconnect rfl)
  have hcall' := hcall.next (ApiStep.call _ true .passThruIoctl rfl)
  have hsize := hcall'.next (ApiStep.writeSize _ false .passThruDisconnect rfl disconnectRecord _ rfl)
  have hsize' := hsize.next (ApiStep.writeSize _ true .passThruIoctl rfl ioctlRecord _ rfl)
  have hbody := hsize'.next (ApiStep.writeBody _ false .passThruDisconnect _ rfl)
  have hbody' := hbody.next (ApiStep.writeBody _ true .passThruIoctl _ rfl)
  obtain ⟨bodies, hperm, hpipe⟩ := h _ _ hbody' (by intro t; cases t <;> rfl)
  have hbad : ∀ bodies ∈ List.permutations' [Cbor.encode (messageMap disconnectRecord),
      Cbor.encode (messageMap ioctlRecord)], bodies.flatMap frame ≠
        leBytes 4 (Cbor.encode (messageMap disconnectRecord)).length ++
          leBytes 4 (Cbor.encode (messageMap ioctlRecord)).length ++
          Cbor.encode (messageMap disconnectRecord) ++ Cbor.encode (messageMap ioctlRecord) := by
    decide
  exact hbad bodies (List.mem_permutations'.2 hperm) hpipe.symm

end J2534Oip
