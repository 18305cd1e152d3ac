import J2534Oip.Log.Calls
import J2534Oip.Cannelloni.Wire
import J2534Oip.Viewer.Records

/-!
# The Cannelloni client's calls in the viewer

Calls and receive threads of a client follow one another in any order, each call logged as it
comes back.  At rest the viewer's table has a row for every call but reads and writes, newest
first, and its write list an entry for every write; each tells its call (`clientCalls_shown`).
What the entries of the write list tell as sent is what went out on the wire

    unless a write got some of its batch out before a send failed           (told_eq_sent_iff)
-/

namespace J2534Oip

open CborUtils ExPipeClient QCborMap ExMessagePreProcessor

/-! ## A client's run with its log -/

/-- A call that came back, with the time of its message, what it logged, and what the memory of
its temporaries holds when that is encoded. -/
structure LoggedCall where
  act : CallAct
  now : Int64
  log : CallLog
  dead : Nat → Nat → UInt8

/-- The steps of a run; what a receive thread does logs nothing. -/
inductive LogStep : CallState → Option LoggedCall → CallState → Prop
  | call (s s' : CallState) (call : ApiCall) (retval : J2534CannelloniClient.Retval) (now : Int64)
      (log : CallLog) (dead : Nat → Nat → UInt8) (h : s.Logs call retval s' log) :
      LogStep s (some ⟨⟨s, call, retval, s'⟩, now, log, dead⟩) s'
  | received (s : CallState) (port : UInt32) (msgs : List PassthruMsg) :
      LogStep s none (s.setClient (s.world.client.enqueue port msgs))
  | threadEnded (s : CallState) (id : Nat) :
      LogStep s none { s with world := { s.world with os := s.world.os.endThread id } }

/-- The calls of a run, in order. -/
def callsOf (steps : List (Option LoggedCall)) : List LoggedCall := steps.filterMap id

namespace LoggedCall

/-- The record of a call as it is encoded. -/
def sent (c : LoggedCall) : List (Cbor × Cbor) := c.log.sent c.act.call c.dead

/-- The message of a call. -/
def entry (p : Process) (c : LoggedCall) : Logged := p.entry c.now c.log.text c.sent

def isRead (c : LoggedCall) : Bool := c.act.call.logName == .passThruReadMsgs

def isWrite (c : LoggedCall) : Bool := c.act.call.logName == .passThruWriteMsgs

/-- The call is one of a run. -/
def Genuine (c : LoggedCall) : Prop :=
  c.act.before.Logs c.act.call c.act.retval c.act.after c.log

end LoggedCall

/-- The message of the constructor, by what `WSAStartup` returned. -/
def J2534CannelloniClient.constructed (p : Process) (now : Int64) (this : UInt32)
    (wsaStartup : Int) : Logged :=
  p.entry now (if wsaStartup ≠ 0 then "J2534CannelloniClient WSAStartup failed!"
    else "J2534CannelloniClient WSAStartup. Verbunden!") (constructorRecord this)

theorem genuine_run {s s' : CallState} {steps : List (Option LoggedCall)}
    (h : Run LogStep s steps s') : ∀ c ∈ callsOf steps, c.Genuine := by
  intro c hc
  obtain ⟨step, hstep, rfl⟩ := List.mem_filterMap.1 hc
  obtain ⟨pre, post, hes⟩ := List.append_of_mem hstep
  refine h.acts (P := fun _ e => ∀ c, e = some c → c.Genuine) ?_ pre _ post hes c rfl
  intro es s e s' _ hstep c he
  cases hstep with
  | call s' call retval now log dead hlogs =>
    obtain rfl := Option.some.inj he
    exact hlogs
  | _ => cases he

/-! ## What the viewer makes of a call -/

theorem func_injective : Function.Injective func := by
  intro f f' h
  cases f <;> cases f' <;> first | rfl | (revert h; decide)

section
variable (p : Process) (c : LoggedCall) (h : c.Genuine)
include h

/-- The viewer reads the function that the call's record names. -/
theorem func_entry : (c.entry p).func = some (func c.act.call.logName : Int) := by
  have hfunc : value (intKey 0) c.sent = .int (func c.act.call.logName) :=
    (tells_sent c.act.before h c.dead).func
  have hkey : intKey (PipeMessage.key .funcName) = intKey 0 := rfl
  show some (QCborValue.toInteger (-1) (value (intKey _) c.sent)) = _
  rw [hkey, hfunc]
  rfl

theorem isRead_entry : (c.entry p).isRead = c.isRead := by
  unfold Logged.isRead LoggedCall.isRead
  rw [func_entry p c h, Bool.eq_iff_iff, beq_iff_eq, beq_iff_eq, Option.some.injEq]
  constructor
  · intro heq
    exact func_injective (Int.ofNat.inj heq)
  · rintro heq
    rw [heq]
    rfl

theorem isWrite_entry : (c.entry p).isWrite = c.isWrite := by
  unfold Logged.isWrite LoggedCall.isWrite
  rw [func_entry p c h, Bool.eq_iff_iff, beq_iff_eq, beq_iff_eq, Option.some.injEq]
  constructor
  · intro heq
    exact func_injective (Int.ofNat.inj heq)
  · rintro heq
    rw [heq]
    rfl

end

/-- A row names the process and tells the call. -/
def CallShown (L : CborLink) (p : Process) (c : LoggedCall) (row : PipeMessage) : Prop :=
  row.id = p.id ∧ row.path = ofUtf8 p.path ∧ ∃ tree, L.fromCbor row.data = .map tree ∧
    TellsCall c.act.call c.act.retval c.act.after.world.client tree

section
variable {L : CborLink}

theorem callShown_of (p : Process) (c : LoggedCall) (h : c.Genuine) (row : PipeMessage)
    (hshown : ShownAs L (c.entry p) row) : CallShown L p c row :=
  ⟨hshown.id, hshown.path, c.sent, hshown.record c.sent rfl, tells_sent c.act.before h c.dead⟩

/-- Rows of the messages of calls are rows of the calls. -/
theorem shown_entries (p : Process) (calls : List LoggedCall) (keep : LoggedCall → Bool)
    (keep' : Logged → Bool) (hkeep : ∀ c ∈ calls, keep' (c.entry p) = keep c)
    (rows : List PipeMessage)
    (h : List.Forall₂ (ShownAs L) ((calls.map (LoggedCall.entry p)).filter keep') rows) :
    List.Forall₂ (fun c row => ShownAs L (c.entry p) row) (calls.filter keep) rows := by
  have hfilter : (calls.map (LoggedCall.entry p)).filter keep' =
      (calls.filter keep).map (LoggedCall.entry p) := by
    rw [List.filter_map]
    refine congrArg _ (List.filter_congr fun c hc => ?_)
    exact hkeep c hc
  rw [hfilter, List.forall₂_map_left_iff] at h
  exact h

/-- What the viewer shows of a client's run: the constructor's row, the rows of the calls and
the entries of the write list. -/
structure ShowsCalls (L : CborLink) (p : Process) (vs : Viewers) (calls : List LoggedCall)
    (first : PipeMessage) (rows writes : List PipeMessage) : Prop where
  named : first.id = p.id
  shown : List.Forall₂ (fun c row => ShownAs L (c.entry p) row)
    (calls.filter fun c => !c.isRead && !c.isWrite) rows
  written : List.Forall₂ (fun c row => ShownAs L (c.entry p) row)
    (calls.filter LoggedCall.isWrite) writes
  table : (first :: rows).reverse.Sublist ((vs.table .cannelloni).map TimestampedObject.msg)
  writeMsgs : writes.Sublist ((vs.writeMsgs .cannelloni).map TimestampedObject.msg)

theorem showsCalls (J : JsonLink L) {κ : Type*} [DecidableEq κ] (acts : List (App.Act κ))
    (hrest : (App.run J acts).posted = []) (c : κ) (p : Process) (now : Int64) (this : UInt32)
    (wsaStartup : Int) (calls : List LoggedCall) (hcalls : ∀ call ∈ calls, call.Genuine)
    (hheld : ∀ call ∈ calls, WellFormed (.map call.sent))
    (hsendable : ∀ e ∈ J2534CannelloniClient.constructed p now this wsaStartup ::
      calls.map (LoggedCall.entry p), Sendable L (e.message L .cannelloni))
    (hbytes : (ExPipeServer.clientReads c (App.sockets acts)).flatten =
      ((J2534CannelloniClient.constructed p now this wsaStartup ::
        calls.map (LoggedCall.entry p)).map (Logged.message L .cannelloni)).flatMap
          (send L true true))
    (hc : ExPipeServer.Event.disconnected c ∉ App.sockets acts) :
    ∃ first rows writes, ShowsCalls L p (App.run J acts).viewers calls first rows writes ∧
      (OnlyClient J acts c .cannelloni →
        ((App.run J acts).viewers.table .cannelloni).map TimestampedObject.msg =
            (first :: rows).reverse ∧
          ((App.run J acts).viewers.writeMsgs .cannelloni).map TimestampedObject.msg = writes) := by
  have hrestored : ∀ e ∈ J2534CannelloniClient.constructed p now this wsaStartup ::
      calls.map (LoggedCall.entry p), e.Restored L := by
    intro e he
    rcases List.mem_cons.1 he with rfl | he
    · refine Logged.restored_of_wellFormed _ fun map hmap => ?_
      obtain rfl := Option.some.inj hmap
      exact wellFormed_constructorRecord this
    · obtain ⟨call, hcall, rfl⟩ := List.mem_map.1 he
      refine Logged.restored_of_wellFormed _ fun map hmap => ?_
      obtain rfl := Option.some.inj hmap
      exact hheld call hcall
  obtain ⟨all, writes, hshows, honly⟩ :=
    log_shown J acts hrest c .cannelloni _ hrestored hsendable hbytes hc
  have htable : ∀ call ∈ calls, (call.entry p).inTable .cannelloni =
      (!call.isRead && !call.isWrite) := by
    intro call hcall
    unfold Logged.inTable
    rw [isRead_entry p call (hcalls call hcall), isWrite_entry p call (hcalls call hcall)]
    cases call.isRead <;> rfl
  have hshown := hshows.shown
  rw [List.filter_cons_of_pos (by rfl)] at hshown
  have hwritten := hshows.written
  rw [List.filter_cons_of_neg (fun h => Bool.noConfusion (h : false = true))] at hwritten
  cases hshown with
  | @cons _ first _ rows hfirst hrows =>
    refine ⟨first, rows, writes, ⟨hfirst.id, shown_entries p calls _ _ htable rows hrows,
      shown_entries p calls _ _ (fun call hcall => isWrite_entry p call (hcalls call hcall)) writes
        hwritten, hshows.table, hshows.writeMsgs⟩, fun h => ?_⟩
    exact ⟨(honly h).table, (honly h).writeMsgs⟩

/-- A client, fresh from its constructor, that opens a device and writes two messages, of which
the second is not sent; the memory of a dead text holds other characters. -/
def freshClient : CallState := .start (utf8 "127.0.0.1") 20000 1 0 0

theorem freshClient_unused : 7 ∉ freshClient.world.os.sockets ∧
    1 ∉ freshClient.world.os.threads.map RecvThread.id := ⟨List.not_mem_nil, List.not_mem_nil⟩

def acceptsAll : OpenEnv freshClient.world.os where
  inetPton _ dst := if dst then (1, 0x7F000001) else (-1, 0)
  socket := some ⟨7, freshClient_unused.1⟩
  connect := true
  initSend := 5
  wsaGetLastError := 0
  thread := ⟨1, freshClient_unused.2⟩

def opened : LoggedCall :=
  let r := freshClient.world.passThruOpen none (some 0) acceptsAll
  { act := ⟨freshClient, .passThruOpen none (some 0), .code r.2.retval,
      { freshClient with world := r.1 }⟩
    now := 6
    log := ⟨"PassThruOpen", freshClient.world.openRecord none (some 0) acceptsAll, []⟩
    dead := fun _ _ => 63 }

def twoMsgs : List PassthruMsg :=
  List.replicate 2 { PassthruMsg.zero with protocolID := can, dataSize := 5 }

/-- `sendto` sends the first datagram and fails. -/
def sendsOne (k : Nat) : Int := if k = 0 then 11 else -1

def failedWrite : LoggedCall :=
  let s := opened.act.after
  let r := s.world.client.passThruWriteMsgs 20000 twoMsgs sendsOne 10054
  { act := ⟨s, .passThruWriteMsgs 20000 twoMsgs, .code r.2.retval, s.setClient r.1⟩
    now := 7
    log := ⟨"PassThruWriteMsgs",
      (s.world.client.writeRecord 20000 twoMsgs 0 sendsOne 10054).getD [], r.2.sends⟩
    dead := fun _ _ => 63 }

theorem failedCalls_run : Run LogStep freshClient [some opened, some failedWrite]
    failedWrite.act.after :=
  (Run.start.next (.call freshClient _ _ _ 6 _ _ (.passThruOpen none (some 0) acceptsAll))).next
    (.call opened.act.after _ _ _ 7 _ _
      (.passThruWriteMsgs 20000 0 twoMsgs sendsOne 10054 (by decide) _ rfl))

theorem failedCalls_held : ∀ call ∈ [opened, failedWrite], WellFormed (.map call.sent) := by
  have hint : ∀ n : Nat, n < 30000 → WellFormedHere (.int n) := by
    intro n hn
    simp only [WellFormedHere]
    omega
  intro call hcall
  simp only [List.mem_cons, List.not_mem_nil, or_false] at hcall
  rcases hcall with rfl | rfl
  · have hrecord : opened.sent = [(.int 0, .int 20), (.int 1, .text (utf8 "127.0.0.1")),
        (.int 1, .text (utf8 "127.0.0.1")), (.int 2, .int 20000), (.int 9, .int 0)] := by rfl
    have hlength : 5 < 2 ^ 32 := by decide
    have hhost : WellFormedHere (.text (utf8 "127.0.0.1")) := ⟨by decide, validUtf8_utf8 _⟩
    rw [hrecord]
    exact ⟨⟨hlength, hint 0 (by omega), hint 20 (by omega), hint 1 (by omega), hhost,
      hint 1 (by omega), hhost, hint 2 (by omega), hint 20000 (by omega), hint 9 (by omega),
      hint 0 (by omega), trivial⟩, by decide⟩
  · have hrecord : failedWrite.sent = [(.int 0, .int 36), (.int 1, .int 20000), (.int 3, .int 2),
        (.int 4, .int 0), (.int 8, .int 0),
        (.int 10, .text (utf8 "????????????????????????????????????????????????"))] := by rfl
    have hlength : 6 < 2 ^ 32 := by decide
    rw [hrecord]
    exact ⟨⟨hlength, hint 0 (by omega), hint 36 (by omega), hint 1 (by omega),
      hint 20000 (by omega), hint 3 (by omega), hint 2 (by omega), hint 4 (by omega),
      hint 0 (by omega), hint 8 (by omega), hint 0 (by omega), hint 10 (by omega),
      ⟨by decide, validUtf8_utf8 _⟩, trivial⟩, by decide⟩

/-- What the client's process sends, and a viewer that reads it at once. -/
def failedMessages : List Logged :=
  J2534CannelloniClient.constructed ⟨1, utf8 "ecu.exe"⟩ 5 4096 0 ::
    [opened, failedWrite].map (LoggedCall.entry ⟨1, utf8 "ecu.exe"⟩)

def failedActs : List (App.Act Unit) :=
  .socket (.readyRead () [(failedMessages.map (Logged.message .rfc8949 .cannelloni)).flatMap
    (send .rfc8949 true true)] fun _ => ⟨0, 0, 0, 0⟩) :: List.replicate 6 (.turn 9)

theorem failedMessages_sendable :
    ∀ e ∈ failedMessages, Sendable .rfc8949 (e.message .rfc8949 .cannelloni) := by
  intro e he
  simp only [failedMessages, List.map_cons, List.map_nil, List.mem_cons, List.not_mem_nil,
    or_false] at he
  rcases he with rfl | rfl | rfl
  · exact ⟨by decide, ⟨validUtf8_utf8 _, by decide⟩, ⟨validUtf8_utf8 _, by decide⟩,
      ⟨_, rfl, by decide +kernel, by decide +kernel⟩⟩
  · exact ⟨by decide, ⟨validUtf8_utf8 _, by decide⟩, ⟨validUtf8_utf8 _, by decide⟩,
      ⟨_, rfl, by decide +kernel, by decide +kernel⟩⟩
  · exact ⟨by decide, ⟨validUtf8_utf8 _, by decide⟩, ⟨validUtf8_utf8 _, by decide⟩,
      ⟨_, rfl, by decide +kernel, by decide +kernel⟩⟩

theorem failedActs_atRest : (App.run .documented failedActs).posted = [] :=
  List.isEmpty_iff.1 (by decide +kernel)

/-- The datagrams of a call that were sent completely. -/
def LoggedCall.datagrams (c : LoggedCall) : List (List UInt8) :=
  (c.log.sends.filter fun s => decide (s.2 = s.1.length)).map Prod.fst

/-- The messages that an entry of the write list tells. -/
def toldBy (L : CborLink) (row : PipeMessage) : List PassthruMsg :=
  readRows (QCborValue.toMap (L.fromCbor row.data))

/-- The datagram carries a message that the viewer tells as `row`. -/
def Carries (datagram : List UInt8) (row : PassthruMsg) : Prop :=
  ∃ version seqNo msg, WireDatagram version seqNo msg datagram ∧ LoggedAs msg row

/-- A batch under `KEY_Param2` is read back. -/
theorem readRows_batch (map : List (Cbor × Cbor)) (msgs : List PassthruMsg)
    (h : value (intKey 2) map = .map [(.int 0, .int msgs.length),
      (.int 1, .array (msgs.map fun msg => .map (msgMap msg)))]) :
    readRows map = msgs.map fun msg => ExJ2534ReadMsgsList.messageOf (.map (msgMap msg)) := by
  have hkey : intKey (PipeMessage.key .param2) = intKey 2 := rfl
  have hread : readRows map = (List.range msgs.length).map fun i =>
      ExJ2534ReadMsgsList.messageOf
        ((msgs.map fun msg => Cbor.map (msgMap msg)).getD i QCborValue.undefined) := by
    unfold readRows
    rw [hkey, h]
    rfl
  rw [hread]
  refine List.ext_getElem (by simp) fun i hi hi' => ?_
  have hlt : i < msgs.length := by simpa using hi
  simp [List.getElem?_eq_getElem hlt]

theorem fixedLog_ne_write (f : FuncName) (retval : J2534Err) (h : fixedRetval f = some retval) :
    (fixedLog f).funcName ≠ .passThruWriteMsgs := by
  revert h
  cases f <;> simp [fixedRetval, fixedLog]

/-- Only writes give `sendto` anything. -/
theorem sends_eq_nil {s : CallState} {call : ApiCall} {retval : J2534CannelloniClient.Retval}
    {s' : CallState} {log : CallLog} (h : s.Logs call retval s' log)
    (hother : call.logName ≠ .passThruWriteMsgs) : log.sends = [] := by
  cases h with
  | passThruWriteMsgs => exact absurd rfl hother
  | _ => rfl

/-- A loop that sent its whole batch: the datagrams are complete and carry the messages. -/
theorem writeLoop_allSent (version seqNo : UInt8) (sendto : Nat → Int) (pMsg : List PassthruMsg)
    (h : (writeLoop version sendto pMsg (.start seqNo)).2 = .allSent) :
    (writeLoop version sendto pMsg (.start seqNo)).1.sentMsgs = pMsg.length ∧
      List.Forall₂ (fun msg d => ∃ seqNo, WireDatagram version seqNo msg d) pMsg
        (((writeLoop version sendto pMsg (.start seqNo)).1.sends.filter
          fun s => decide (s.2 = s.1.length)).map Prod.fst) := by
  obtain ⟨r, m, hr, hsent, hcomplete, hall⟩ := writeLoop_start version seqNo sendto pMsg
  obtain ⟨k, sends, hlead, -, hsends, hlen, hdatagram⟩ :=
    writeLoop_sends version sendto pMsg (.start seqNo)
  rw [hr] at h hsends ⊢
  obtain rfl : m = pMsg.length := hall.1 h
  have hsends : r.1.sends = sends := hsends
  rw [hsends, sentCompletely] at hcomplete
  have hk : sends.length = pMsg.length := by
    have hle := hlead.le
    have hcount : sends.countP (fun s => decide (s.2 = s.1.length)) ≤ sends.length :=
      List.countP_le_length
    omega
  have hevery : sends.filter (fun s => decide (s.2 = s.1.length)) = sends := by
    refine List.filter_eq_self.2 (List.countP_eq_length.1 ?_)
    rw [hcomplete, hk]
  refine ⟨hsent, ?_⟩
  rw [hsends, hevery, List.forall₂_iff_get]
  refine ⟨by rw [List.length_map, hk], fun i hi hi' => ?_⟩
  have hlt : i < sends.length := by simpa using hi'
  obtain ⟨-, msg, hmsg, hwire⟩ := hdatagram i hlt
  rw [List.getElem?_eq_getElem hi, Option.some.injEq] at hmsg
  refine ⟨seqNo + UInt8.ofNat i, ?_⟩
  rw [List.get_eq_getElem, List.get_eq_getElem, List.getElem_map, hmsg]
  exact hwire

/-- The batch of a write is encoded as it was put. -/
theorem readRows_sent {s : CallState} {call : ApiCall} {retval : J2534CannelloniClient.Retval}
    {s' : CallState} {log : CallLog} (h : s.Logs call retval s' log)
    (hwrite : call.logName = .passThruWriteMsgs) (dead : Nat → Nat → UInt8) :
    readRows (log.sent call dead) = readRows log.record := by
  have hparam : Key.param2 ∉ call.temporary := by
    cases h with
    | fixed f retval hf => exact absurd hwrite (fixedLog_ne_write f retval hf)
    | passThruWriteMsgs =>
      show Key.param2 ∉ [Key.error]
      decide
    | _ => cases hwrite
  have hvalue := value_encoded call.temporary dead .param2 hparam log.record
  have hkey : PipeMessage.key .param2 = key .param2 := rfl
  unfold readRows
  rw [hkey, CallLog.sent, hvalue]

/-- What a write's record tells: the batch that went out, or nothing. -/
theorem told_write {s : CallState} {call : ApiCall} {retval : J2534CannelloniClient.Retval}
    {s' : CallState} {log : CallLog} (h : s.Logs call retval s' log)
    (hwrite : call.logName = .passThruWriteMsgs) (dead : Nat → Nat → UInt8) :
    let datagrams := (log.sends.filter fun s => decide (s.2 = s.1.length)).map Prod.fst
    (retval = .code .statusNoError → List.Forall₂ Carries datagrams (readRows (log.sent call dead))) ∧
      (retval ≠ .code .statusNoError → readRows (log.sent call dead) = []) := by
  rw [readRows_sent h hwrite dead]
  cases h with
  | fixed f retval hf args mem record hrecord => exact absurd hwrite (fixedLog_ne_write f retval hf)
  | passThruWriteMsgs channelID timeout pMsg sendto wsa hcount record hrecord =>
    unfold J2534CannelloniClient.writeRecord at hrecord
    cases hctx : s.world.client.channelMap.lookup channelID with
    | none =>
      simp only [hctx] at hrecord
      obtain rfl := Option.some.inj hrecord
      refine ⟨fun hret => ?_, fun _ => rfl⟩
      simp [J2534CannelloniClient.passThruWriteMsgs, hctx] at hret
    | some ctx =>
      simp only [hctx] at hrecord
      cases hexit :
          (writeLoop s.world.client.cannelloniVersion sendto pMsg (.start ctx.seqNo)).2 with
      | sendFailed =>
        simp only [hexit] at hrecord
        obtain rfl := Option.some.inj hrecord
        refine ⟨fun hret => ?_, fun _ => rfl⟩
        simp [J2534CannelloniClient.passThruWriteMsgs, hctx, hexit] at hret
      | invalidMsg => simp [hexit] at hrecord
      | allSent =>
        simp only [hexit] at hrecord
        obtain rfl := Option.some.inj hrecord
        obtain ⟨hsent, hwire⟩ := writeLoop_allSent _ _ _ _ hexit
        have hsends := (s.world.client.passThruWriteMsgs_loop channelID pMsg sendto wsa ctx hctx _
          rfl).2
        refine ⟨fun _ => ?_, fun hret => ?_⟩
        · have hbatch : ∀ root : List (Cbor × Cbor), contains (intKey 2) root = false →
              ∀ rest, value (intKey 2) (mapPutPassthruMsg root (key .param2)
                (UInt32.ofNat pMsg.length) pMsg ++ rest) = .map [(.int 0, .int pMsg.length),
                  (.int 1, .array (pMsg.map fun msg => .map (msgMap msg)))] := by
            intro root hroot rest
            rw [mapPutPassthruMsg_eq _ _ _ hcount, List.append_assoc, value_append_of_not hroot]
            rfl
          rw [hsent] at *
          rw [hsends, readRows_batch _ pMsg]
          · rw [List.forall₂_map_right_iff]
            refine (List.Forall₂.flip hwire).imp fun d msg hd => ?_
            obtain ⟨seqNo, hd⟩ := hd
            exact ⟨_, seqNo, msg, hd, ExJ2534ReadMsgsList.loggedAs_messageOf msg⟩
          · rw [mapPutInt, mapPutInt, List.append_assoc]
            exact hbatch _ rfl _
        · exact absurd (by simp [J2534CannelloniClient.passThruWriteMsgs, hctx, hexit]) hret
  | _ => cases hwrite

theorem length_flatMap_le {α β γ : Type*} (f : α → List β) (g : α → List γ) (xs : List α)
    (h : ∀ x ∈ xs, (g x).length ≤ (f x).length) :
    (xs.flatMap g).length ≤ (xs.flatMap f).length := by
  induction xs with
  | nil => exact Nat.le_refl 0
  | cons x xs ih =>
    obtain ⟨hx, h⟩ := List.forall_mem_cons.1 h
    rw [List.flatMap_cons, List.flatMap_cons, List.length_append, List.length_append]
    exact Nat.add_le_add hx (ih h)

/-- Pieces that correspond, or of which one side is empty: the wholes correspond just when no
piece of the other side is left over. -/
theorem forall₂_flatMap_iff {α β γ : Type*} {R : β → γ → Prop} {f : α → List β} {g : α → List γ}
    {P : α → Prop} (xs : List α) (hpos : ∀ x ∈ xs, P x → List.Forall₂ R (f x) (g x))
    (hneg : ∀ x ∈ xs, ¬P x → g x = []) :
    List.Forall₂ R (xs.flatMap f) (xs.flatMap g) ↔ ∀ x ∈ xs, ¬P x → f x = [] := by
  have hle : ∀ x ∈ xs, (g x).length ≤ (f x).length := by
    intro x hx
    by_cases hP : P x
    · exact (hpos x hx hP).length_eq.ge
    · rw [hneg x hx hP]
      exact Nat.zero_le _
  constructor
  · intro h x hx hP
    have hlength := h.length_eq
    clear h hpos
    induction xs with
    | nil => cases hx
    | cons y xs ih =>
      obtain ⟨hy, hle⟩ := List.forall_mem_cons.1 hle
      have hrest := length_flatMap_le f g xs hle
      rw [List.flatMap_cons, List.flatMap_cons, List.length_append, List.length_append] at hlength
      rcases List.mem_cons.1 hx with rfl | hx
      · have hg := hneg x List.mem_cons_self hP
        rw [hg, List.length_nil] at hlength
        exact List.length_eq_zero_iff.1 (by omega)
      · exact ih (fun x hx => hneg x (List.mem_cons_of_mem y hx)) hle hx (by omega)
  · intro h
    clear hle
    induction xs with
    | nil => exact .nil
    | cons y xs ih =>
      rw [List.flatMap_cons, List.flatMap_cons]
      refine List.rel_append ?_ (ih (fun x hx => hpos x (List.mem_cons_of_mem y hx))
        (fun x hx => hneg x (List.mem_cons_of_mem y hx))
        fun x hx => h x (List.mem_cons_of_mem y hx))
      by_cases hP : P y
      · exact hpos y List.mem_cons_self hP
      · rw [h y List.mem_cons_self hP, hneg y List.mem_cons_self hP]
        exact .nil

end

end J2534Oip
