import J2534Oip.Cannelloni.Device
import J2534Oip.Cannelloni.Receive
import J2534Oip.Lib.Mailbox
import Mathlib.Logic.Function.Basic

/-!
# Sessions: messages from receive thread to reader

API calls hold `globalMutex`, so one at a time is between its atomic steps: a read between
two pops, or a close that waits for its receive thread.  Receive threads append whole
batches in between, on any channel.  `System` is the state such steps act on, and every
step of it is, for each port, a step of a mailbox (`mailbox_step`); the library's
`Mailbox.tracks_run` then gives

    Run SessionStep (System.start client …) acts s →
      ∀ p, Tracks (s.mailbox p) (sessions (acts.map (·.at p)))       (sessions_conserved)

with what each read reports: on an open channel what it delivered, on any other an error,
and `*pNumMsgs` as the caller left it.
-/

namespace J2534Oip

open Mailbox

/-! ## Reading -/

/-- `popParsedMsg`: the front of the queue and the rest. -/
def popParsedMsg : List PassthruMsg → Option (PassthruMsg × List PassthruMsg)
  | [] => none
  | msg :: queue => some (msg, queue)

/-- One pass of the read loop after `readCount` messages, `elapsed` ms into the call: the
message popped and the queue left, or `none` where the loop ends.  Without a timeout the
clock is not looked at. -/
def readPass (requested : Nat) (timeout : UInt32) (elapsed : Nat) (readCount : Nat)
    (queue : List PassthruMsg) : Option (PassthruMsg × List PassthruMsg) :=
  if requested ≤ readCount then none
  else if timeout = 0 then popParsedMsg queue
  else if (timeout.toNat : Int) - elapsed ≤ 0 then none
  else popParsedMsg queue

/-- The status of a read, with `*pNumMsgs` already overwritten. -/
def readStatus (readCount : Nat) : J2534Err :=
  let numMsgs := readCount
  if 0 < readCount ∨ numMsgs = 0 then .statusNoError else .errBufferEmpty

/-! ## The system -/

/-- The call that holds `globalMutex`. -/
inductive Call
  | reading (channelID : UInt32) (requested : Nat) (timeout : UInt32) (got : List PassthruMsg)
  | closing (deviceID : UInt32)

structure System where
  world : World
  /-- the receive threads' buffers, by the channel they serve -/
  buffers : UInt32 → Mem
  call : Option Call

inductive SessionAct
  | quiet
  | opened (port : UInt32)
  | closed (port : UInt32) (dropped : List PassthruMsg)
  | enqueued (port : UInt32) (msgs : List PassthruMsg)
  /-- a read returned: what it was asked for, what it copied to `pMsg`, `*pNumMsgs`, status -/
  | read (channelID : UInt32) (requested : Nat) (delivered : List PassthruMsg) (numMsgs : Nat)
      (retval : J2534Err)

namespace System

def channel (s : System) (p : UInt32) : Option ChannelContext := s.world.client.channelMap.lookup p

def setChannel (s : System) (p : UInt32) (ctx : ChannelContext) : System :=
  { s with world := { s.world with client := s.world.client.setChannel p ctx } }

/-- `PassThruOpen`; a new receive thread starts on a buffer of zeros. -/
def passThruOpen (s : System) (pName : Option (List UInt8)) (pDeviceID : Option UInt32)
    (env : OpenEnv s.world.os) (stack : Mem) : System × SessionAct :=
  let r := s.world.passThruOpen pName pDeviceID env
  match r.2.retval, r.2.deviceID with
  | .statusNoError, some port =>
    ({ s with
        world := r.1
        buffers := Function.update s.buffers port fun i => if i < maxPacketSize then 0 else stack i },
      .opened port)
  | _, _ => ({ s with world := r.1 }, .quiet)

/-- The receive thread `t` handles a datagram, holding `msgQueueMutex` for the whole batch. -/
def receive (s : System) (t : RecvThread) (ctx : ChannelContext) (d : Datagram) :
    System × SessionAct :=
  let mem := recv (s.buffers t.channel) d
  let s := { s with buffers := Function.update s.buffers t.channel mem }
  match parseDatagram s.world.client.cannelloniVersion d.bytes.length mem with
  | none => ({ s with world := { s.world with os := s.world.os.endThread t.id } }, .quiet)
  | some msgs =>
    (s.setChannel t.channel { ctx with msgQueue := ctx.msgQueue ++ msgs }, .enqueued t.channel msgs)

/-- `PassThruReadMsgs` on a channel that is not open. -/
def readUnknown (s : System) (channelID : UInt32) (requested : Nat) : System × SessionAct :=
  ({ s with world := { s.world with
      client := s.world.client.fail (utf8 "Invalid ChannelID") .errInvalidChannelId } },
    .read channelID requested [] requested .errInvalidChannelId)

/-- `PassThruReadMsgs` after its loop. -/
def readEnd (s : System) (channelID : UInt32) (requested : Nat) (got : List PassthruMsg) :
    System × SessionAct :=
  ({ s with
      world := { s.world with
        client := { s.world.client with lastErrorLong := readStatus got.length } }
      call := none },
    .read channelID requested got got.length (readStatus got.length))

/-- The client as it is constructed; the buffers do not matter before a thread starts. -/
def start (client : J2534CannelloniClient) (buffers : UInt32 → Mem) : System :=
  { world := World.start client, buffers := buffers, call := none }

end System

/-- The atomic steps.  A call starts when no other holds `globalMutex`; a receive thread may
step at any time, also while its channel is being closed. -/
inductive SessionStep : System → SessionAct → System → Prop
  | passThruOpen (s : System) (hfree : s.call = none) (pName : Option (List UInt8))
      (pDeviceID : Option UInt32) (env : OpenEnv s.world.os) (stack : Mem) :
      SessionStep s (s.passThruOpen pName pDeviceID env stack).2
        (s.passThruOpen pName pDeviceID env stack).1
  | receive (s : System) (t : RecvThread) (ht : t ∈ s.world.os.threads) (hrun : t.ended = false)
      (ctx : ChannelContext) (hctx : s.channel t.channel = some ctx) (d : Datagram) :
      SessionStep s (s.receive t ctx d).2 (s.receive t ctx d).1
  /-- the loop condition sees `stopRequested` -/
  | threadStops (s : System) (t : RecvThread) (ht : t ∈ s.world.os.threads)
      (ctx : ChannelContext) (hctx : s.channel t.channel = some ctx)
      (hstop : ctx.stopRequested = true) :
      SessionStep s .quiet { s with world := { s.world with os := s.world.os.endThread t.id } }
  | closeUnknown (s : System) (hfree : s.call = none) (deviceID : UInt32)
      (hctx : s.channel deviceID = none) :
      SessionStep s .quiet { s with world := (s.world.passThruClose deviceID).1 }
  | closeBegin (s : System) (hfree : s.call = none) (deviceID : UInt32) (ctx : ChannelContext)
      (hctx : s.channel deviceID = some ctx) :
      SessionStep s .quiet { s.setChannel deviceID { ctx with stopRequested := true } with
        call := some (.closing deviceID) }
  /-- `join` returns, and the entry goes with what is queued in it -/
  | closeEnd (s : System) (deviceID : UInt32) (hcall : s.call = some (.closing deviceID))
      (hjoin : ∀ t ∈ s.world.os.threads, t.channel = deviceID → t.ended = true)
      (ctx : ChannelContext) (hctx : s.channel deviceID = some ctx) :
      SessionStep s (.closed deviceID ctx.msgQueue)
        { s with world := (s.world.passThruClose deviceID).1, call := none }
  | readUnknown (s : System) (hfree : s.call = none) (channelID : UInt32)
      (hctx : s.channel channelID = none) (requested : Nat) :
      SessionStep s (s.readUnknown channelID requested).2 (s.readUnknown channelID requested).1
  | readBegin (s : System) (hfree : s.call = none) (channelID : UInt32) (ctx : ChannelContext)
      (hctx : s.channel channelID = some ctx) (requested : Nat) (timeout : UInt32) :
      SessionStep s .quiet { s with call := some (.reading channelID requested timeout []) }
  | readPop (s : System) (channelID : UInt32) (requested : Nat) (timeout : UInt32)
      (got : List PassthruMsg) (hcall : s.call = some (.reading channelID requested timeout got))
      (ctx : ChannelContext) (hctx : s.channel channelID = some ctx) (elapsed : Nat)
      (msg : PassthruMsg) (queue : List PassthruMsg)
      (hpass : readPass requested timeout elapsed got.length ctx.msgQueue = some (msg, queue)) :
      SessionStep s .quiet { s.setChannel channelID { ctx with msgQueue := queue } with
        call := some (.reading channelID requested timeout (got ++ [msg])) }
  | readEnd (s : System) (channelID : UInt32) (requested : Nat) (timeout : UInt32)
      (got : List PassthruMsg) (hcall : s.call = some (.reading channelID requested timeout got))
      (ctx : ChannelContext) (hctx : s.channel channelID = some ctx) (elapsed : Nat)
      (hpass : readPass requested timeout elapsed got.length ctx.msgQueue = none) :
      SessionStep s (s.readEnd channelID requested got).2 (s.readEnd channelID requested got).1

/-! ## A mailbox for each port -/

/-- What a read in progress on `p` has popped. -/
def System.inHand (s : System) (p : UInt32) : List PassthruMsg :=
  match s.call with
  | some (.reading channelID _ _ got) => if channelID = p then got else []
  | _ => []

def System.mailbox (s : System) (p : UInt32) : Mailbox PassthruMsg :=
  { queue := (s.channel p).map ChannelContext.msgQueue, inHand := s.inHand p }

/-- What an act is to port `p`. -/
def SessionAct.at (p : UInt32) : SessionAct → Mailbox.Act PassthruMsg
  | .quiet => .quiet
  | .opened port => if port = p then .opened else .quiet
  | .closed port dropped => if port = p then .closed dropped else .quiet
  | .enqueued port msgs => if port = p then .put msgs else .quiet
  | .read channelID _ delivered _ _ => if channelID = p then .gave delivered else .quiet

namespace System

theorem inHand_free (s : System) (h : s.call = none) (p : UInt32) : s.inHand p = [] := by
  rw [inHand, h]

theorem inHand_closing (s : System) (deviceID : UInt32) (h : s.call = some (.closing deviceID))
    (p : UInt32) : s.inHand p = [] := by
  rw [inHand, h]

theorem inHand_reading (s : System) (channelID : UInt32) (requested : Nat) (timeout : UInt32)
    (got : List PassthruMsg) (h : s.call = some (.reading channelID requested timeout got))
    (p : UInt32) : s.inHand p = if channelID = p then got else [] := by
  rw [inHand, h]

/-- Setting a context changes that channel and no other. -/
theorem channel_setChannel (s : System) (q p : UInt32) (ctx : ChannelContext) :
    (s.setChannel q ctx).channel p = if q = p then some ctx else s.channel p := by
  show (s.world.client.channelMap.insert q ctx).lookup p = _
  by_cases h : q = p
  · subst h
    rw [if_pos rfl, AList.lookup_insert]
  · rw [if_neg h, AList.lookup_insert_ne (Ne.symm h)]
    rfl

/-- A step that leaves `p`'s queue and hand alone is none to its mailbox. -/
theorem mailbox_quiet {s s' : System} {p : UInt32} (hchannel : s'.channel p = s.channel p)
    (hhand : s'.inHand p = s.inHand p) : Step (s.mailbox p) .quiet (s'.mailbox p) := by
  rw [mailbox, mailbox, hchannel, hhand]
  exact Step.quiet _

theorem passThruOpen_fail (s : System) (pName : Option (List UInt8)) (pDeviceID : Option UInt32)
    (env : OpenEnv s.world.os) (stack : Mem)
    (h : (s.world.passThruOpen pName pDeviceID env).2.retval ≠ .statusNoError) :
    s.passThruOpen pName pDeviceID env stack =
      ({ s with world := (s.world.passThruOpen pName pDeviceID env).1 }, .quiet) := by
  simp only [passThruOpen]
  split
  · next heq _ => exact absurd heq h
  · rfl

/-- An open is the opening of one mailbox, or nothing to any. -/
theorem mailbox_passThruOpen (s : System) (hfree : s.call = none) (pName : Option (List UInt8))
    (pDeviceID : Option UInt32) (env : OpenEnv s.world.os) (stack : Mem) (p : UInt32) :
    Step (s.mailbox p) ((s.passThruOpen pName pDeviceID env stack).2.at p)
      ((s.passThruOpen pName pDeviceID env stack).1.mailbox p) := by
  rcases s.world.passThruOpen_cases pName pDeviceID env with
    ⟨text, err, hr, herr, -⟩ | ⟨sockfd, ctx, -, -, -, hqueue, -, -, hbusy, hr⟩
  · rw [s.passThruOpen_fail pName pDeviceID env stack (by rw [hr]; exact herr), hr]
    exact mailbox_quiet rfl rfl
  · obtain ⟨-, hport⟩ := not_or.1 hbusy
    have hact : (s.passThruOpen pName pDeviceID env stack).2 =
        .opened (selectPort s.world.client pName) := by
      simp only [passThruOpen, hr]
    have hchannel : (s.passThruOpen pName pDeviceID env stack).1.channel p =
        (s.setChannel (selectPort s.world.client pName) ctx).channel p := by
      simp only [passThruOpen, hr]
      rfl
    have hhand : (s.passThruOpen pName pDeviceID env stack).1.inHand p = [] := by
      rw [← s.inHand_free hfree p]
      simp only [passThruOpen, hr]
      rfl
    rw [hact, SessionAct.at, mailbox, mailbox, hchannel, hhand, channel_setChannel,
      s.inHand_free hfree p]
    by_cases h : selectPort s.world.client pName = p
    · have hnone : s.channel p = none := by
        rw [← h]
        exact AList.lookup_eq_none.2 hport
      rw [if_pos h, if_pos h, hnone, Option.map_some, hqueue]
      exact Step.opened
    · rw [if_neg h, if_neg h]
      exact Step.quiet _

theorem mailbox_receive (s : System) (t : RecvThread) (ctx : ChannelContext)
    (hctx : s.channel t.channel = some ctx) (d : Datagram) (p : UInt32) :
    Step (s.mailbox p) ((s.receive t ctx d).2.at p) ((s.receive t ctx d).1.mailbox p) := by
  cases hparse : parseDatagram s.world.client.cannelloniVersion d.bytes.length
      (recv (s.buffers t.channel) d) with
  | none =>
    simp only [receive, hparse]
    exact mailbox_quiet rfl rfl
  | some msgs =>
    simp only [receive, hparse, SessionAct.at]
    rw [mailbox, mailbox, channel_setChannel]
    by_cases h : t.channel = p
    · rw [if_pos h, if_pos h, ← h, hctx]
      exact Step.put _ _ _
    · rw [if_neg h, if_neg h]
      exact Step.quiet _

theorem mailbox_readPop (s : System) (channelID : UInt32) (requested : Nat) (timeout : UInt32)
    (got : List PassthruMsg) (hcall : s.call = some (.reading channelID requested timeout got))
    (ctx : ChannelContext) (hctx : s.channel channelID = some ctx) (msg : PassthruMsg)
    (queue : List PassthruMsg) (hqueue : ctx.msgQueue = msg :: queue) (p : UInt32) :
    Step (s.mailbox p) .quiet
      (mailbox { s.setChannel channelID { ctx with msgQueue := queue } with
        call := some (.reading channelID requested timeout (got ++ [msg])) } p) := by
  have hchannel : channel { s.setChannel channelID { ctx with msgQueue := queue } with
      call := some (.reading channelID requested timeout (got ++ [msg])) } p =
      (s.setChannel channelID { ctx with msgQueue := queue }).channel p := rfl
  rw [mailbox, mailbox, hchannel, channel_setChannel, s.inHand_reading _ _ _ _ hcall,
    inHand_reading _ _ _ _ _ rfl]
  by_cases h : channelID = p
  · rw [if_pos h, if_pos h, if_pos h, ← h, hctx, Option.map_some, Option.map_some, hqueue]
    exact Step.take _ _ _
  · rw [if_neg h, if_neg h, if_neg h]
    exact Step.quiet _

theorem mailbox_readEnd (s : System) (channelID : UInt32) (requested : Nat) (timeout : UInt32)
    (got : List PassthruMsg) (hcall : s.call = some (.reading channelID requested timeout got))
    (ctx : ChannelContext) (hctx : s.channel channelID = some ctx) (p : UInt32) :
    Step (s.mailbox p) ((s.readEnd channelID requested got).2.at p)
      ((s.readEnd channelID requested got).1.mailbox p) := by
  have hchannel : (s.readEnd channelID requested got).1.channel p = s.channel p := rfl
  have hact : (s.readEnd channelID requested got).2.at p =
      if channelID = p then .gave got else .quiet := rfl
  have hhand : (s.readEnd channelID requested got).1.inHand p = [] := rfl
  rw [mailbox, mailbox, hchannel, hact, hhand, s.inHand_reading _ _ _ _ hcall]
  by_cases h : channelID = p
  · rw [if_pos h, if_pos h, ← h, hctx]
    exact Step.gave _ _
  · rw [if_neg h, if_neg h]
    exact Step.quiet _

/-- Setting a context that keeps its queue is nothing to any mailbox. -/
theorem map_channel_setChannel (s : System) (q p : UInt32) (ctx ctx' : ChannelContext)
    (hctx : s.channel q = some ctx) (hqueue : ctx'.msgQueue = ctx.msgQueue) :
    ((s.setChannel q ctx').channel p).map ChannelContext.msgQueue =
      (s.channel p).map ChannelContext.msgQueue := by
  rw [channel_setChannel]
  by_cases h : q = p
  · rw [if_pos h, ← h, hctx, Option.map_some, Option.map_some, hqueue]
  · rw [if_neg h]

theorem mailbox_closeEnd (s : System) (deviceID : UInt32)
    (hcall : s.call = some (.closing deviceID)) (ctx : ChannelContext)
    (hctx : s.channel deviceID = some ctx) (p : UInt32) :
    Step (s.mailbox p) ((SessionAct.closed deviceID ctx.msgQueue).at p)
      (mailbox { s with world := (s.world.passThruClose deviceID).1, call := none } p) := by
  have hlookup : s.world.client.channelMap.lookup deviceID = some ctx := hctx
  have hchannel : channel { s with world := (s.world.passThruClose deviceID).1, call := none } p =
      (s.world.client.channelMap.erase deviceID).lookup p := by
    simp only [channel, World.passThruClose, hlookup]
  have hhand : inHand { s with world := (s.world.passThruClose deviceID).1, call := none } p = [] :=
    rfl
  rw [mailbox, mailbox, hchannel, hhand, s.inHand_closing _ hcall, SessionAct.at]
  by_cases h : deviceID = p
  · rw [if_pos h, ← h, hctx, AList.lookup_erase]
    exact Step.closed _
  · rw [if_neg h, AList.lookup_erase_ne (Ne.symm h)]
    exact Step.quiet _

end System

theorem popParsedMsg_some {queue queue' : List PassthruMsg} {msg : PassthruMsg}
    (h : popParsedMsg queue = some (msg, queue')) : queue = msg :: queue' := by
  cases queue with
  | nil => cases h
  | cons m rest =>
    obtain ⟨rfl, rfl⟩ : m = msg ∧ rest = queue' := by simpa [popParsedMsg] using h
    rfl

/-- A pass that goes on popped the front, and was asked for more. -/
theorem readPass_some {requested : Nat} {timeout : UInt32} {elapsed readCount : Nat}
    {queue queue' : List PassthruMsg} {msg : PassthruMsg}
    (h : readPass requested timeout elapsed readCount queue = some (msg, queue')) :
    readCount < requested ∧ queue = msg :: queue' := by
  unfold readPass at h
  split at h
  · cases h
  · next hmore =>
    refine ⟨Nat.lt_of_not_le hmore, ?_⟩
    split at h
    · exact popParsedMsg_some h
    · split at h
      · cases h
      · exact popParsedMsg_some h

/-- **Every step is a step of each port's mailbox.** -/
theorem mailbox_step {s s' : System} {act : SessionAct} (h : SessionStep s act s') (p : UInt32) :
    Step (s.mailbox p) (act.at p) (s'.mailbox p) := by
  cases h with
  | passThruOpen hfree pName pDeviceID env stack =>
    exact s.mailbox_passThruOpen hfree pName pDeviceID env stack p
  | receive t ht hrun ctx hctx d => exact s.mailbox_receive t ctx hctx d p
  | threadStops t ht ctx hctx hstop => exact System.mailbox_quiet rfl rfl
  | closeUnknown hfree deviceID hctx =>
    have hlookup : s.world.client.channelMap.lookup deviceID = none := hctx
    refine System.mailbox_quiet ?_ rfl
    simp only [System.channel, World.passThruClose, hlookup]
  | closeBegin hfree deviceID ctx hctx =>
    have hmap := s.map_channel_setChannel deviceID p ctx { ctx with stopRequested := true } hctx rfl
    have hhand := s.inHand_free hfree p
    show Step (s.mailbox p) .quiet
      { queue := ((s.setChannel deviceID { ctx with stopRequested := true }).channel p).map _,
        inHand := [] }
    rw [hmap, ← hhand]
    exact Step.quiet _
  | closeEnd deviceID hcall hjoin ctx hctx => exact s.mailbox_closeEnd deviceID hcall ctx hctx p
  | readUnknown hfree channelID hctx requested =>
    have hhand := s.inHand_free hfree p
    show Step (s.mailbox p) (if channelID = p then .gave [] else .quiet)
      { queue := (s.channel p).map _, inHand := s.inHand p }
    by_cases h : channelID = p
    · rw [if_pos h, System.mailbox, hhand, ← h, hctx]
      exact Step.refused
    · rw [if_neg h]
      exact Step.quiet _
  | readBegin hfree channelID ctx hctx requested timeout =>
    refine System.mailbox_quiet rfl ?_
    rw [s.inHand_free hfree, System.inHand_reading _ _ _ _ _ rfl]
    split <;> rfl
  | readPop channelID requested timeout got hcall ctx hctx elapsed msg queue hpass =>
    exact s.mailbox_readPop channelID requested timeout got hcall ctx hctx msg queue
      (readPass_some hpass).2 p
  | readEnd channelID requested timeout got hcall ctx hctx elapsed hpass =>
    exact s.mailbox_readEnd channelID requested timeout got hcall ctx hctx p

/-! ## What a read reports -/

/-- A read in progress has not delivered more than it was asked for. -/
def System.CallOk (s : System) : Prop :=
  ∀ channelID requested timeout got, s.call = some (.reading channelID requested timeout got) →
    got.length ≤ requested

theorem callOk_of_call {s s' : System} (h : s.CallOk) (hcall : s'.call = s.call) : s'.CallOk := by
  intro channelID requested timeout got hreading
  exact h channelID requested timeout got (hcall ▸ hreading)

theorem callOk_step {s s' : System} {act : SessionAct} (h : s.CallOk)
    (hstep : SessionStep s act s') : s'.CallOk := by
  cases hstep with
  | passThruOpen hfree pName pDeviceID env stack =>
    refine callOk_of_call h ?_
    simp only [System.passThruOpen]
    split <;> rfl
  | receive t ht hrun ctx hctx d =>
    refine callOk_of_call h ?_
    simp only [System.receive]
    split <;> rfl
  | threadStops t ht ctx hctx hstop => exact callOk_of_call h rfl
  | closeUnknown hfree deviceID hctx => exact callOk_of_call h rfl
  | closeBegin hfree deviceID ctx hctx => rintro _ _ _ _ ⟨⟩
  | closeEnd deviceID hcall hjoin ctx hctx => rintro _ _ _ _ ⟨⟩
  | readUnknown hfree channelID hctx requested => exact callOk_of_call h rfl
  | readBegin hfree channelID ctx hctx requested timeout =>
    rintro _ _ _ _ ⟨⟩
    exact Nat.zero_le _
  | readPop channelID requested timeout got hcall ctx hctx elapsed msg queue hpass =>
    rintro _ _ _ _ ⟨⟩
    rw [List.length_append]
    exact (readPass_some hpass).1
  | readEnd channelID requested timeout got hcall ctx hctx elapsed hpass => rintro _ _ _ _ ⟨⟩

/-- What a read answers in view of the acts before it: on an open channel `*pNumMsgs` is what it
delivered; on any other it delivers nothing, fails, and leaves `*pNumMsgs` alone. -/
def ReadReports (before : List SessionAct) : SessionAct → Prop
  | .read channelID requested delivered numMsgs retval =>
    if isOpen (sessions (before.map (·.at channelID))) then
      retval ≠ .errInvalidChannelId ∧ numMsgs = delivered.length ∧ delivered.length ≤ requested
    else retval = .errInvalidChannelId ∧ delivered = [] ∧ numMsgs = requested
  | _ => True

theorem readStatus_ne (readCount : Nat) : readStatus readCount ≠ .errInvalidChannelId := by
  simp only [readStatus]
  split <;> decide

variable (client : J2534CannelloniClient) (buffers : UInt32 → Mem)

/-- Every run is, for each port, a run of its mailbox. -/
theorem mailbox_run {acts : List SessionAct} {s : System}
    (h : Run SessionStep (System.start client buffers) acts s) (p : UInt32) :
    Run Step closed (acts.map (·.at p)) (s.mailbox p) :=
  h.map (·.mailbox p) (·.at p) fun _ _ _ _ _ hstep => mailbox_step hstep p

theorem tracks_mailbox {acts : List SessionAct} {s : System}
    (h : Run SessionStep (System.start client buffers) acts s) (p : UInt32) :
    Tracks (s.mailbox p) (sessions (acts.map (·.at p))) :=
  tracks_run (mailbox_run client buffers h p)

theorem callOk_run {acts : List SessionAct} {s : System}
    (h : Run SessionStep (System.start client buffers) acts s) : s.CallOk := by
  refine h.invariant (I := fun _ s => s.CallOk) ?_ fun _ _ _ _ _ hok hstep => callOk_step hok hstep
  rintro _ _ _ _ ⟨⟩

theorem readReports_step {acts : List SessionAct} {s s' : System} {act : SessionAct}
    (h : Run SessionStep (System.start client buffers) acts s) (hstep : SessionStep s act s') :
    ReadReports acts act := by
  have hopen : ∀ p, isOpen (sessions (acts.map (·.at p))) = (s.channel p).isSome := by
    intro p
    rw [isOpen_of_tracks (tracks_mailbox client buffers h p)]
    exact Option.isSome_map
  cases hstep with
  | passThruOpen hfree pName pDeviceID env stack =>
    simp only [System.passThruOpen]
    split <;> exact trivial
  | receive t ht hrun ctx hctx d =>
    simp only [System.receive]
    split <;> exact trivial
  | threadStops t ht ctx hctx hstop => exact trivial
  | closeUnknown hfree deviceID hctx => exact trivial
  | closeBegin hfree deviceID ctx hctx => exact trivial
  | closeEnd deviceID hcall hjoin ctx hctx => exact trivial
  | readUnknown hfree channelID hctx requested =>
    simp [System.readUnknown, ReadReports, hopen channelID, hctx]
  | readBegin hfree channelID ctx hctx requested timeout => exact trivial
  | readPop channelID requested timeout got hcall ctx hctx elapsed msg queue hpass => exact trivial
  | readEnd channelID requested timeout got hcall ctx hctx elapsed hpass =>
    have hle := callOk_run client buffers h channelID requested timeout got hcall
    simp [System.readEnd, ReadReports, hopen channelID, hctx, readStatus_ne, hle]

/-- **Received messages are conserved.**  Over every interleaving, each session of each port
accounts for what its receive thread enqueued, and each read reports what it delivered. -/
theorem sessions_conserved (acts : List SessionAct) (s : System)
    (h : Run SessionStep (System.start client buffers) acts s) :
    (∀ p, Tracks (s.mailbox p) (sessions (acts.map (·.at p)))) ∧
      ∀ before act after, acts = before ++ act :: after → ReadReports before act :=
  ⟨tracks_mailbox client buffers h,
    h.acts fun _ _ _ _ hrun hstep => readReports_step client buffers hrun hstep⟩

/-- A device is opened, one message arrives, and a read for two gets it. -/
theorem sessions_conserved_one :
    let start := System.start J2534CannelloniClient.oneOpen fun _ _ => 0
    ∃ acts s, (sessions (acts.map (SessionAct.at 20000))).map (·.gave.length) = [1] ∧
      Run SessionStep start acts s ∧
      (∀ p, Tracks (s.mailbox p) (sessions (acts.map (·.at p)))) ∧
      ∀ before act after, acts = before ++ act :: after → ReadReports before act := by
  intro start
  let env : OpenEnv start.world.os :=
    { inetPton := fun _ dst => if dst then (1, 0x7F000001) else (-1, 0)
      socket := some ⟨7, List.not_mem_nil⟩
      connect := true
      initSend := 5
      wsaGetLastError := 0
      thread := ⟨1, List.not_mem_nil⟩ }
  let d : Datagram :=
    ⟨[1, 0, 0, 1, 0, 0x80, 0x07, 0xE0, 0x00, 8, 1, 2, 3, 4, 5, 6, 7, 8], by decide, by decide⟩
  have hopen := Run.start.next (SessionStep.passThruOpen start rfl none (some 0) env fun _ => 0)
  have hreceive := hopen.next
    (SessionStep.receive _ ⟨1, 20000, false⟩ List.mem_cons_self rfl _ rfl d)
  have hbegin := hreceive.next (SessionStep.readBegin _ rfl 20000 _ rfl 2 0)
  have hpop := hbegin.next (SessionStep.readPop _ 20000 2 0 [] rfl _ rfl 0 _ _ rfl)
  have hend := hpop.next (SessionStep.readEnd _ 20000 2 0 _ rfl _ rfl 0 rfl)
  exact ⟨_, _, rfl, hend, sessions_conserved _ _ _ _ hend⟩

/-- A read on a channel that is not open leaves the five it was asked for in `*pNumMsgs`. -/
theorem sessions_conserved_unknown :
    ¬∀ acts s, Run SessionStep (System.start J2534CannelloniClient.oneOpen fun _ _ => 0) acts s →
      ∀ channelID requested delivered numMsgs retval,
        SessionAct.read channelID requested delivered numMsgs retval ∈ acts →
          numMsgs = delivered.length := by
  intro h
  have hrun := Run.start.next (SessionStep.readUnknown
    (System.start J2534CannelloniClient.oneOpen fun _ _ => 0) rfl 20000 rfl 5)
  have hcount := h _ _ hrun _ _ _ _ _ List.mem_cons_self
  exact absurd hcount (by decide)

end J2534Oip
