import J2534Oip.Cannelloni.Session

/-!
# The device table during sessions

The steps of a session touch the device table as well: a receive thread or a read replaces
a context, a close takes an entry out.  All of them leave table and resources in step,

    Run SessionStep (System.start client …) acts s → InStep s.world (openPorts acts)
                                                                         (inStep_session)

so a receive thread always finds its context, and a call in progress its channel: no step
waits for an entry that is gone (`receive_enabled`, `read_enabled`).
-/

namespace J2534Oip

/-! ## Acts on the table -/

/-- The open ports after one more act. -/
def openPort (ids : List UInt32) : SessionAct → List UInt32
  | .opened port => port :: ids
  | .closed port _ => ids.erase port
  | _ => ids

def openPorts (acts : List SessionAct) : List UInt32 := acts.foldl openPort []

/-- Replacing a context by one with the same socket and thread. -/
theorem inStep_setChannel (w : World) (ids : List UInt32) (h : InStep w ids) (p : UInt32)
    (ctx ctx' : ChannelContext) (hctx : w.client.channelMap.lookup p = some ctx)
    (hsockfd : ctx'.sockfd = ctx.sockfd) (hthread : ctx'.recvThread = ctx.recvThread) :
    InStep { w with client := w.client.setChannel p ctx' } ids := by
  have hview : ∀ {γ : Type} (f : (_ : UInt32) × ChannelContext → γ), f ⟨p, ctx'⟩ = f ⟨p, ctx⟩ →
      ((w.client.channelMap.insert p ctx').entries.map f).Perm (w.client.channelMap.entries.map f) :=
    fun f hf => AList.perm_map_entries_insert hctx f hf
  refine ⟨?_, h.socketsNodup, ?_, h.threadsNodup, ?_, ?_⟩
  · exact h.sockets.trans (hview _ hsockfd).symm
  · refine h.threads.trans (hview _ ?_).symm
    rw [hthread]
  · have hlen := (hview Sigma.fst rfl).length_eq
    rw [List.length_map, List.length_map] at hlen
    show (w.client.channelMap.insert p ctx').entries.length ≤ numPorts
    rw [hlen]
    exact h.size
  · exact h.ids.trans (hview Sigma.fst rfl).symm

theorem System.world_passThruOpen (s : System) (pName : Option (List UInt8))
    (pDeviceID : Option UInt32) (env : OpenEnv s.world.os) (stack : Mem) :
    (s.passThruOpen pName pDeviceID env stack).1.world =
      (s.world.passThruOpen pName pDeviceID env).1 := by
  simp only [passThruOpen]
  split <;> rfl

/-- An open hands out the port that it opens. -/
theorem openPort_passThruOpen (s : System) (ids : List UInt32) (pName : Option (List UInt8))
    (pDeviceID : Option UInt32) (env : OpenEnv s.world.os) (stack : Mem) :
    openPort ids (s.passThruOpen pName pDeviceID env stack).2 =
      handOut ids (.opened (s.world.passThruOpen pName pDeviceID env).2) := by
  rcases s.world.passThruOpen_cases pName pDeviceID env with
    ⟨text, err, hr, herr, -⟩ | ⟨sockfd, ctx, -, -, -, -, -, -, -, hr⟩
  · rw [s.passThruOpen_fail pName pDeviceID env stack (by rw [hr]; exact herr), hr]
    exact (if_neg herr).symm
  · simp only [System.passThruOpen, hr]
    rfl

theorem inStep_session_step {s s' : System} {act : SessionAct} {ids : List UInt32}
    (h : InStep s.world ids) (hstep : SessionStep s act s') : InStep s'.world (openPort ids act) := by
  cases hstep with
  | passThruOpen hfree pName pDeviceID env stack =>
    rw [System.world_passThruOpen, openPort_passThruOpen]
    exact inStep_open s.world ids h pName pDeviceID env
  | receive t ht hrun ctx hctx d =>
    cases hparse : parseDatagram s.world.client.cannelloniVersion d.bytes.length
        (recv (s.buffers t.channel) d) with
    | none =>
      simp only [System.receive, hparse]
      exact inStep_endThread s.world ids h t.id
    | some msgs =>
      simp only [System.receive, hparse]
      exact inStep_setChannel s.world ids h t.channel ctx _ hctx rfl rfl
  | threadStops t ht ctx hctx hstop => exact inStep_endThread s.world ids h t.id
  | closeUnknown hfree deviceID hctx =>
    have hlookup : s.world.client.channelMap.lookup deviceID = none := hctx
    have hclose := inStep_close s.world ids h deviceID
    have hret : (s.world.passThruClose deviceID).2 = .errInvalidDeviceId := by
      simp only [World.passThruClose, hlookup]
    rw [hret] at hclose
    exact hclose
  | closeBegin hfree deviceID ctx hctx =>
    exact inStep_setChannel s.world ids h deviceID ctx _ hctx rfl rfl
  | closeEnd deviceID hcall hjoin ctx hctx =>
    have hlookup : s.world.client.channelMap.lookup deviceID = some ctx := hctx
    have hclose := inStep_close s.world ids h deviceID
    have hret : (s.world.passThruClose deviceID).2 = .statusNoError := by
      simp only [World.passThruClose, hlookup]
    rw [hret] at hclose
    exact hclose
  | readUnknown hfree channelID hctx requested => exact h.congr rfl rfl
  | readBegin hfree channelID ctx hctx requested timeout => exact h
  | readPop channelID requested timeout got hcall ctx hctx elapsed msg queue hpass =>
    exact inStep_setChannel s.world ids h channelID ctx _ hctx rfl rfl
  | readEnd channelID requested timeout got hcall ctx hctx elapsed hpass => exact h.congr rfl rfl

section
variable {client : J2534CannelloniClient} {buffers : UInt32 → Mem} {acts : List SessionAct}
  {s : System}

/-- **Sessions keep the device table in step** with sockets and threads. -/
theorem inStep_session (h : Run SessionStep (System.start client buffers) acts s) :
    InStep s.world (openPorts acts) := by
  refine h.invariant (I := fun acts s => InStep s.world (openPorts acts)) (inStep_start client) ?_
  intro acts s act s' _ hin hstep
  have hnext : openPorts (acts ++ [act]) = openPort (openPorts acts) act := by
    simp [openPorts]
  rw [hnext]
  exact inStep_session_step hin hstep

/-! ## Nobody waits for an entry that is gone -/

/-- A thread that was started and not joined serves an open channel, as its thread. -/
theorem InStep.served {w : World} {ids : List UInt32} (h : InStep w ids) (t : RecvThread)
    (ht : t ∈ w.os.threads) :
    ∃ ctx, w.client.channelMap.lookup t.channel = some ctx ∧ ctx.recvThread = some t.id := by
  obtain ⟨⟨p, ctx⟩, he, hpair⟩ := List.mem_map.1 (h.threads.subset (List.mem_map_of_mem ht))
  obtain ⟨rfl, hid⟩ := Prod.mk.inj hpair
  exact ⟨ctx, AList.mem_lookup_iff.2 he, hid⟩

/-- **A running receive thread can take any datagram** at any time. -/
theorem receive_enabled (h : Run SessionStep (System.start client buffers) acts s)
    (t : RecvThread) (ht : t ∈ s.world.os.threads) (hrun : t.ended = false) (d : Datagram) :
    ∃ ctx, s.channel t.channel = some ctx ∧ ctx.recvThread = some t.id ∧
      SessionStep s (s.receive t ctx d).2 (s.receive t ctx d).1 := by
  obtain ⟨ctx, hctx, hid⟩ := (inStep_session h).served t ht
  exact ⟨ctx, hctx, hid, SessionStep.receive s t ht hrun ctx hctx d⟩

/-- The channel a call works on. -/
def Call.channel : Call → UInt32
  | .reading channelID _ _ _ => channelID
  | .closing deviceID => deviceID

/-- The channel of the call in progress is open. -/
def System.CallOpen (s : System) : Prop :=
  ∀ call, s.call = some call → ∃ ctx, s.channel call.channel = some ctx

/-- Replacing a context closes no channel. -/
theorem callOpen_setChannel {s : System} (h : s.CallOpen) (p : UInt32) (ctx : ChannelContext) :
    (s.setChannel p ctx).CallOpen := by
  intro call hcall
  rw [System.channel_setChannel]
  split
  · exact ⟨ctx, rfl⟩
  · exact h call hcall

theorem callOpen_step {s s' : System} {act : SessionAct} (h : s.CallOpen)
    (hstep : SessionStep s act s') : s'.CallOpen := by
  have hidle : ∀ s' : System, s'.call = none → s'.CallOpen := by
    intro s' hnone call hcall
    rw [hnone] at hcall
    cases hcall
  cases hstep with
  | passThruOpen hfree pName pDeviceID env stack =>
    apply hidle
    simp only [System.passThruOpen]
    split <;> exact hfree
  | receive t ht hrun ctx hctx d =>
    simp only [System.receive]
    split
    · exact h
    · exact callOpen_setChannel h t.channel _
  | threadStops t ht ctx hctx hstop => exact h
  | closeUnknown hfree deviceID hctx => exact hidle _ hfree
  | closeBegin hfree deviceID ctx hctx =>
    rintro _ ⟨⟩
    exact ⟨_, (s.channel_setChannel deviceID deviceID _).trans (if_pos rfl)⟩
  | closeEnd deviceID hcall hjoin ctx hctx => exact hidle _ rfl
  | readUnknown hfree channelID hctx requested => exact hidle _ hfree
  | readBegin hfree channelID ctx hctx requested timeout =>
    rintro _ ⟨⟩
    exact ⟨ctx, hctx⟩
  | readPop channelID requested timeout got hcall ctx hctx elapsed msg queue hpass =>
    rintro _ ⟨⟩
    exact ⟨_, (s.channel_setChannel channelID channelID _).trans (if_pos rfl)⟩
  | readEnd channelID requested timeout got hcall ctx hctx elapsed hpass => exact hidle _ rfl

theorem call_channel (h : Run SessionStep (System.start client buffers) acts s) : s.CallOpen := by
  refine h.invariant (I := fun _ s => s.CallOpen) ?_ fun _ _ _ _ _ hok hstep => callOpen_step hok hstep
  rintro _ ⟨⟩

/-- **A read in progress can go on**, whatever the clock says: it takes one more message or
returns. -/
theorem read_enabled (h : Run SessionStep (System.start client buffers) acts s)
    {channelID timeout : UInt32} {requested : Nat} {got : List PassthruMsg}
    (hcall : s.call = some (.reading channelID requested timeout got)) (elapsed : Nat) :
    ∃ act s', SessionStep s act s' ∧ (s'.call = none ∨
      ∃ msg, s'.call = some (.reading channelID requested timeout (got ++ [msg]))) := by
  obtain ⟨ctx, hctx⟩ := call_channel h _ hcall
  cases hpass : readPass requested timeout elapsed got.length ctx.msgQueue with
  | none =>
    exact ⟨_, _, SessionStep.readEnd s channelID requested timeout got hcall ctx hctx elapsed hpass,
      Or.inl rfl⟩
  | some next =>
    obtain ⟨msg, queue⟩ := next
    exact ⟨_, _, SessionStep.readPop s channelID requested timeout got hcall ctx hctx elapsed msg queue
      hpass, Or.inr ⟨msg, rfl⟩⟩

end

end J2534Oip
