import J2534Oip.Viewer.Shown
import Mathlib.Data.List.Flatten

/-!
# From a datagram to the viewer

A receive thread enqueues what it parses, reads deliver it, each read is logged, the log
goes through the pipe and the event loop to the viewer's list.  Put together, for any
interleaving on either side, with the log's client connected and the viewer at rest:

    what reads on a port delivered, session by session, begins what its thread enqueued
    (log.flatMap (·.delivered)) is what the rows show, and the rows stand in the viewer's
    list in this order                                                     (datagrams_shown)
-/

namespace J2534Oip

open QCborValue QCborMap CborUtils ExPipeClient ExMessagePreProcessor Mailbox

variable {L : CborLink}

/-! ## What a read logs -/

/-- A read that returned, on an open channel or on one that is not. -/
inductive LoggedRead
  | call (c : ReadCall)
  | unknown (channelID requested timeout : UInt32)

namespace LoggedRead

def channelID : LoggedRead → UInt32
  | call c => c.channelID
  | unknown channelID _ _ => channelID

def delivered : LoggedRead → List PassthruMsg
  | call c => c.delivered
  | unknown _ _ _ => []

/-- `cb_map_root`; a channel that is not open gives an integer for the batch, and an error. -/
def recordMap : LoggedRead → List (Cbor × Cbor)
  | call c => c.recordMap
  | unknown channelID requested timeout =>
    let root := mapPutInt [] (key .funcName) (UInt32.ofNat (func .passThruReadMsgs))
    let root := mapPutInt root (key .param1) channelID
    let root := mapPutInt root (key .param3) requested
    let root := mapPutInt root (key .param4) timeout
    let root := mapPutInt root (key .param2) 0
    let root := mapPutInt root (key .rxTx) 0
    mapPutString root (key .error) (utf8 "Function PassThruReadMsgs -> Invalid ChannelID")

/-- The message sent. -/
def logMessage (L : CborLink) (id : UInt32) (timestamp : Int64) (path : List UInt8)
    (read : LoggedRead) : Message :=
  { id := id, type := 4, dataType := 2, timestamp := timestamp, path := path,
    message := utf8 "PassThruReadMsgs", data := cborToData L (.map read.recordMap) }

theorem wellFormed_record (read : LoggedRead) : WellFormed (.map read.recordMap) := by
  cases read with
  | call c => exact c.wellFormed_record
  | unknown channelID requested timeout =>
    have htext : WellFormedHere (.text (utf8 "Function PassThruReadMsgs -> Invalid ChannelID")) :=
      ⟨by decide, validUtf8_utf8 _⟩
    have hint : ∀ n : Nat, n < 2 ^ 32 → WellFormedHere (.int n) := by
      intro n hn
      simp only [WellFormedHere]
      omega
    refine ⟨?_, by simp [recordMap, mapPutInt, mapPutString, Cbor.depth, Cbor.depthPairs]⟩
    simp only [recordMap, mapPutInt, mapPutString, List.nil_append, List.cons_append, Cbor.All,
      Cbor.AllPairs]
    exact ⟨by simp [WellFormedHere], hint _ (by decide), hint _ (by decide), hint _ (by decide),
      wellFormedHere_uint32 _, hint _ (by decide), wellFormedHere_uint32 _, hint _ (by decide),
      wellFormedHere_uint32 _, hint _ (by decide), wellFormedHere_uint32 _, hint _ (by decide),
      wellFormedHere_uint32 _, hint _ (by decide), htext, trivial⟩

/-- The rows a read adds. -/
def rows (read : LoggedRead) : List PassthruMsg :=
  read.delivered.map fun msg => ExJ2534ReadMsgsList.messageOf (.map (msgMap msg))

theorem loggedAs_rows (read : LoggedRead) : List.Forall₂ LoggedAs read.delivered read.rows := by
  rw [rows, List.forall₂_map_right_iff, List.forall₂_same]
  exact fun msg _ => ExJ2534ReadMsgsList.loggedAs_messageOf msg

end LoggedRead

/-- A logged read: the client's process, when it was sent, and the read. -/
structure ReadEntry where
  id : UInt32
  timestamp : Int64
  path : List UInt8
  read : LoggedRead

def ReadEntry.message (L : CborLink) (e : ReadEntry) : Message :=
  e.read.logMessage L e.id e.timestamp e.path

/-- The messages a message of a client adds to the read list of the Cannelloni viewer. -/
def batchOf (L : CborLink) (msg : PipeMessage) : List PassthruMsg :=
  if msg.type = 4 then (⟨.cannelloni, 0, msg⟩ : Given).batch L else []

/-- A message of a client that is the record of a read. -/
def isReadRecord (L : CborLink) (msg : Message) : Bool :=
  (⟨.cannelloni, 0, ExPipeServer.received msg⟩ : Given).isRead L

theorem isRead_iff (g : Given) : g.isRead L = true ↔
    g.msg.dataType = 2 ∧ ExJ2534Wrapper.funcName L g.msg.data = 27 := by
  unfold Given.isRead Given.func
  split <;> simp [*]

theorem fromCbor_readEntry (e : ReadEntry) :
    L.fromCbor (ExPipeServer.received (e.message L)).data = .map e.read.recordMap := by
  obtain ⟨bs, hw, hr⟩ := L.restores _ e.read.wellFormed_record
  show L.fromCbor (cborToData L (.map e.read.recordMap)) = _
  rw [cborToData, hw]
  exact hr

/-- The record of a read adds the rows of what was delivered. -/
theorem batchOf_readEntry (e : ReadEntry) :
    batchOf L (ExPipeServer.received (e.message L)) = e.read.rows := by
  have htree := fromCbor_readEntry (L := L) e
  have hread : (⟨.cannelloni, 0, ExPipeServer.received (e.message L)⟩ : Given).isRead L = true := by
    rw [isRead_iff]
    refine ⟨rfl, ?_⟩
    show toInteger (-1) (value _ (toMap (L.fromCbor (ExPipeServer.received (e.message L)).data))) = 27
    rw [htree]
    cases e.read with
    | call c =>
      show toInteger (-1) (value _ c.recordMap) = 27
      rw [ReadCall.recordMap_eq]
      rfl
    | unknown channelID requested timeout => rfl
  have htype : (ExPipeServer.received (e.message L)).type = 4 := rfl
  rw [batchOf, if_pos htype, Given.batch, if_pos hread]
  obtain ⟨id, timestamp, path, read⟩ := e
  cases read with
  | call c =>
    rw [ExJ2534ReadMsgsList.processPipeMessage_record L [] _ c htree]
    rfl
  | unknown channelID requested timeout =>
    rw [ExJ2534ReadMsgsList.processPipeMessage, htree]
    rfl

/-- Only the records of reads add to the read list. -/
theorem flatMap_batchOf (msgs : List Message) (log : List ReadEntry)
    (h : msgs.filter (isReadRecord L) = log.map (ReadEntry.message L)) :
    (msgs.map ExPipeServer.received).flatMap (batchOf L) = log.flatMap fun e => e.read.rows := by
  have hother : ∀ msg : Message, isReadRecord L msg = false →
      batchOf L (ExPipeServer.received msg) = [] := by
    intro msg hmsg
    unfold isReadRecord at hmsg
    unfold batchOf Given.batch
    rw [hmsg]
    simp
  have hfilter : ∀ msgs : List Message, (msgs.map ExPipeServer.received).flatMap (batchOf L) =
      ((msgs.filter (isReadRecord L)).map ExPipeServer.received).flatMap (batchOf L) := by
    intro msgs
    induction msgs with
    | nil => rfl
    | cons msg msgs ih =>
      cases hmsg : isReadRecord L msg with
      | true => simp only [List.map_cons, List.flatMap_cons, List.filter_cons, hmsg, if_true, ih]
      | false =>
        rw [List.map_cons, List.flatMap_cons, hother msg hmsg, List.nil_append, ih,
          List.filter_cons_of_neg (by rw [hmsg]; exact Bool.false_ne_true)]
  rw [hfilter, h, List.map_map, List.flatMap_map]
  exact List.flatMap_congr fun e _ => batchOf_readEntry e

/-! ## What arrived from a client -/

section
variable {κ : Type*}

/-- The arrival is a message of client `c`. -/
def isFrom [DecidableEq κ] (c : κ) : App.Arrival κ → Bool
  | .fromClient c' _ _ => c' = c
  | .fromFile _ => false

theorem incommingMessageFromClient_eq (msg : PipeMessage) :
    incommingMessageFromClient msg = some .cannelloni ↔ msg.type = 4 := by
  unfold incommingMessageFromClient
  split_ifs with h2 h3 h4
  · simp [h2]
  · simp [h3]
  · simp [h4]
  · simp [h4]

/-- What the Cannelloni viewer's read list gets of arrivals. -/
def cannelloniBatch (L : CborLink) (arrived : List (App.Arrival κ)) : List PassthruMsg :=
  (givenTo .cannelloni (arrived.filterMap App.Arrival.given)).flatMap (Given.batch L)

theorem cannelloniBatch_cons (x : App.Arrival κ) (arrived : List (App.Arrival κ)) :
    cannelloniBatch L (x :: arrived) = cannelloniBatch L [x] ++ cannelloniBatch L arrived := by
  unfold cannelloniBatch givenTo
  rw [← List.singleton_append, List.filterMap_append, List.filter_append, List.flatMap_append]

theorem cannelloniBatch_sublist {some all : List (App.Arrival κ)} (h : some.Sublist all) :
    (cannelloniBatch L some).Sublist (cannelloniBatch L all) :=
  ((h.filterMap _).filter _).flatMap _

theorem cannelloniBatch_message (c : κ) (now : Int64) (msg : PipeMessage) :
    cannelloniBatch L [App.Arrival.fromClient c now msg] = batchOf L msg := by
  have hviewer := incommingMessageFromClient_eq msg
  unfold cannelloniBatch givenTo batchOf
  by_cases h4 : msg.type = 4
  · rw [if_pos h4]
    simp only [App.Arrival.given, List.filterMap_cons, List.filterMap_nil, hviewer.2 h4,
      Option.map_some]
    exact List.append_nil _
  · rw [if_neg h4]
    cases hv : incommingMessageFromClient msg with
    | none => simp [App.Arrival.given, hv]
    | some v =>
      have hne : v ≠ .cannelloni := by
        rintro rfl
        exact h4 (hviewer.1 hv)
      simp [App.Arrival.given, hv, hne]

/-- The batches of a client's arrivals, at whatever time they came. -/
theorem cannelloniBatch_from [DecidableEq κ] (c : κ) (arrived : List (App.Arrival κ)) :
    cannelloniBatch L (arrived.filter (isFrom c)) =
      (ExPipeServer.dispatchedTo c (arrived.filterMap App.Arrival.message)).flatMap (batchOf L) := by
  induction arrived with
  | nil => rfl
  | cons x arrived ih =>
    cases x with
    | fromFile g => exact ih
    | fromClient c' now msg =>
      by_cases hc : c' = c
      · subst hc
        have hmine : isFrom c' (App.Arrival.fromClient c' now msg) = true := by simp [isFrom]
        rw [List.filter_cons_of_pos hmine, cannelloniBatch_cons, cannelloniBatch_message, ih]
        simp [App.Arrival.message, ExPipeServer.dispatchedTo]
      · have hother : ¬isFrom c (App.Arrival.fromClient c' now msg) = true := by simp [isFrom, hc]
        rw [List.filter_cons_of_neg hother, ih]
        simp [App.Arrival.message, ExPipeServer.dispatchedTo, hc]

/-- Arrivals of which only those of client `c` go to the Cannelloni viewer. -/
theorem cannelloniBatch_only [DecidableEq κ] (c : κ) (arrived : List (App.Arrival κ))
    (hclients : ∀ p ∈ arrived.filterMap App.Arrival.message, p.1 ≠ c → p.2.type ≠ 4)
    (hfiles : ∀ g ∈ arrived.filterMap App.Arrival.file, g.viewer ≠ .cannelloni) :
    cannelloniBatch L arrived = cannelloniBatch L (arrived.filter (isFrom c)) := by
  induction arrived with
  | nil => rfl
  | cons x arrived ih =>
    cases x with
    | fromFile g =>
      have hg : g.viewer ≠ .cannelloni := hfiles g (by simp [App.Arrival.file])
      have hnone : cannelloniBatch L [(.fromFile g : App.Arrival κ)] = [] := by
        simp [cannelloniBatch, givenTo, App.Arrival.given, hg]
      rw [cannelloniBatch_cons, hnone, List.nil_append, ih hclients
        fun g' hg' => hfiles g' (List.mem_cons_of_mem g hg')]
      rfl
    | fromClient c' now msg =>
      have ih := ih (fun p hp => hclients p (List.mem_cons_of_mem (c', msg) hp)) hfiles
      rw [cannelloniBatch_cons, ih]
      by_cases hc : c' = c
      · have hmine : isFrom c (.fromClient c' now msg) = true := by simp [isFrom, hc]
        rw [List.filter_cons_of_pos hmine, ← cannelloniBatch_cons]
      · have hother : ¬isFrom c (.fromClient c' now msg) = true := by simp [isFrom, hc]
        have htype : msg.type ≠ 4 := hclients (c', msg) (by simp [App.Arrival.message]) hc
        rw [List.filter_cons_of_neg hother, cannelloniBatch_message, batchOf, if_neg htype,
          List.nil_append]

end

/-! ## The reads of a run -/

/-- What the reads of a run delivered, and on which channel. -/
def readsOf (acts : List SessionAct) : List (UInt32 × List PassthruMsg) :=
  acts.filterMap fun
    | .read channelID _ delivered _ _ => some (channelID, delivered)
    | _ => none

/-- The reads on a port are what its mailbox gave. -/
theorem readsOf_at (p : UInt32) (acts : List SessionAct) :
    ((readsOf acts).filter fun r => r.1 == p).flatMap Prod.snd =
      (acts.map (·.at p)).flatMap Mailbox.Act.given := by
  induction acts with
  | nil => rfl
  | cons act acts ih =>
    cases act with
    | read channelID requested delivered numMsgs retval =>
      rw [List.map_cons, List.flatMap_cons, ← ih]
      by_cases h : channelID = p
      · simp [readsOf, SessionAct.at, Mailbox.Act.given, h]
      · simp [readsOf, SessionAct.at, Mailbox.Act.given, h]
    | quiet => exact ih
    | opened port =>
      rw [List.map_cons, List.flatMap_cons, ← ih, SessionAct.at]
      split <;> rfl
    | closed port dropped =>
      rw [List.map_cons, List.flatMap_cons, ← ih, SessionAct.at]
      split <;> rfl
    | enqueued port msgs =>
      rw [List.map_cons, List.flatMap_cons, ← ih, SessionAct.at]
      split <;> rfl

theorem loggedAs_log (log : List ReadEntry) :
    List.Forall₂ LoggedAs (log.flatMap (·.read.delivered)) (log.flatMap fun e => e.read.rows) := by
  induction log with
  | nil => exact .nil
  | cons e log ih =>
    rw [List.flatMap_cons, List.flatMap_cons]
    exact List.rel_append e.read.loggedAs_rows ih

/-- **From a datagram to the viewer.**  The client's threads and calls interleave in any way, and
so do the viewer's sockets, turns and files.  The client's log has a record for each read, in
order, among other messages.  Then with the viewer at rest its read list holds, in this order,
a row for each message that the reads delivered; and what they delivered on a port is, session by
session, the beginning of what the receive thread enqueued. -/
theorem datagrams_shown (client : J2534CannelloniClient) (buffers : UInt32 → Mem)
    (sessionActs : List SessionAct) (s : System)
    (hsession : Run SessionStep (System.start client buffers) sessionActs s) (log : List ReadEntry)
    (hlog : log.map (fun e => (e.read.channelID, e.read.delivered)) = readsOf sessionActs)
    {κ : Type*} [DecidableEq κ] (J : JsonLink L) (acts : List (App.Act κ))
    (hrest : (App.run J acts).posted = []) (c : κ) (msgs : List Message)
    (hmsgs : ∀ msg ∈ msgs, Sendable L msg)
    (hbytes : (ExPipeServer.clientReads c (App.sockets acts)).flatten =
      msgs.flatMap (send L true true))
    (hc : ExPipeServer.Event.disconnected c ∉ App.sockets acts)
    (hrecords : msgs.filter (isReadRecord L) = log.map (ReadEntry.message L)) :
    (∀ p, (log.filter fun e => e.read.channelID == p).flatMap (·.read.delivered) =
        (sessions (sessionActs.map (·.at p))).reverse.flatMap Session.gave ∧
      ∀ session ∈ sessions (sessionActs.map (·.at p)), session.gave <+: session.put) ∧
    ∃ rows, List.Forall₂ LoggedAs (log.flatMap (·.read.delivered)) rows ∧
      rows.Sublist ((App.run J acts).viewers.readMsgs .cannelloni) ∧
      ((∀ p ∈ (ExPipeServer.run L .init (App.sockets acts)).2, p.1 ≠ c → p.2.type ≠ 4) →
        (∀ g ∈ acts.flatMap (App.Act.given J), g.viewer ≠ .cannelloni) →
          (App.run J acts).viewers.readMsgs .cannelloni = rows) := by
  obtain ⟨arrived, haccount⟩ := App.account_run J acts
  have hmessages : arrived.filterMap App.Arrival.message =
      (ExPipeServer.run L .init (App.sockets acts)).2 := by
    rw [← haccount.messages, App.waiting, hrest]
    exact (List.append_nil _).symm
  have hshown : (App.run J acts).viewers.readMsgs .cannelloni = cannelloniBatch L arrived := by
    have hsettled : (App.run J acts).settled L = (App.run J acts).viewers := by
      rw [App.settled, hrest]
      rfl
    rw [← hsettled, haccount.viewers]
    exact (shows_shown _ .cannelloni).2.readMsgs
  have hrows : cannelloniBatch L (arrived.filter (isFrom c)) = log.flatMap fun e => e.read.rows := by
    rw [cannelloniBatch_from, hmessages, dispatchedTo_run c msgs hmsgs _ hbytes hc]
    exact flatMap_batchOf msgs log hrecords
  constructor
  · intro p
    refine ⟨?_, gave_prefix (tracks_mailbox client buffers hsession p)⟩
    rw [gave_run (mailbox_run client buffers hsession p), ← readsOf_at, ← hlog, List.filter_map,
      List.flatMap_map]
    rfl
  · refine ⟨log.flatMap fun e => e.read.rows, ?_, ?_, ?_⟩
    · exact loggedAs_log log
    · rw [hshown, ← hrows]
      exact cannelloniBatch_sublist (List.filter_sublist)
    · intro hclients hfiles
      rw [hshown, ← hrows]
      refine cannelloniBatch_only c arrived ?_ ?_
      · rw [hmessages]
        exact hclients
      · rw [haccount.files]
        exact hfiles

/-- A datagram of one frame, and the read that delivers its message. -/
def oneDatagram : Datagram :=
  ⟨[1, 0, 0, 1, 0, 0x80, 0x07, 0xE0, 0x00, 8, 1, 2, 3, 4, 5, 6, 7, 8], by decide, by decide⟩

def oneRead : LoggedRead :=
  .call
    { channelID := 20000, requested := 2, timeout := 0
      delivered := (parseDatagram 1 18 (recv (fun _ => 0) oneDatagram)).getD []
      counted := by decide
      sized := by decide }

def oneEntry : ReadEntry := { id := 1, timestamp := 5, path := utf8 "ecu.exe", read := oneRead }

theorem oneRead_run : ∃ acts s,
    Run SessionStep (System.start J2534CannelloniClient.oneOpen fun _ _ => 0) acts s ∧
      [(oneRead.channelID, oneRead.delivered)] = readsOf acts := by
  let start := System.start J2534CannelloniClient.oneOpen fun _ _ => 0
  let env : OpenEnv start.world.os :=
    { inetPton := fun _ dst => if dst then (1, 0x7F000001) else (-1, 0)
      socket := some ⟨7, List.not_mem_nil⟩
      connect := true
      initSend := 5
      wsaGetLastError := 0
      thread := ⟨1, List.not_mem_nil⟩ }
  have hopen := Run.start.next (SessionStep.passThruOpen start rfl none (some 0) env fun _ => 0)
  have hreceive := hopen.next
    (SessionStep.receive _ ⟨1, 20000, false⟩ List.mem_cons_self rfl _ rfl oneDatagram)
  have hbegin := hreceive.next (SessionStep.readBegin _ rfl 20000 _ rfl 2 0)
  have hpop := hbegin.next (SessionStep.readPop _ 20000 2 0 [] rfl _ rfl 0 _ _ rfl)
  have hend := hpop.next (SessionStep.readEnd _ 20000 2 0 _ rfl _ rfl 0 rfl)
  exact ⟨_, _, hend, rfl⟩

/-- One datagram, one read, one message in the pipe. -/
theorem datagrams_shown_one :
    let acts : List (App.Act Unit) :=
      [.socket (.readyRead () [send .rfc8949 true true (oneEntry.message .rfc8949)]
        fun _ => ⟨0, 0, 0, 0⟩), .turn 9]
    ∃ rows, List.Forall₂ LoggedAs oneRead.delivered rows ∧
      rows.Sublist ((App.run .documented acts).viewers.readMsgs .cannelloni) := by
  intro acts
  obtain ⟨sessionActs, s, hrun, hreads⟩ := oneRead_run
  have hrest : (App.run .documented acts).posted.isEmpty = true := by decide +kernel
  have hread : isReadRecord .rfc8949 (oneEntry.message .rfc8949) = true := by decide +kernel
  have hsendable : ∀ msg ∈ [oneEntry.message .rfc8949], Sendable .rfc8949 msg := by
    intro msg hmsg
    obtain rfl := List.mem_singleton.1 hmsg
    exact ⟨by decide, ⟨validUtf8_utf8 _, by decide⟩, ⟨validUtf8_utf8 _, by decide⟩,
      ⟨_, rfl, by decide +kernel, by decide +kernel⟩⟩
  obtain ⟨-, rows, hlogged, hsublist, -⟩ := datagrams_shown _ _ _ _ hrun [oneEntry] hreads .documented
    acts (List.isEmpty_iff.1 hrest) () [oneEntry.message .rfc8949] hsendable rfl
    (by simp [acts, App.sockets]) (by simp [hread])
  exact ⟨rows, hlogged, hsublist⟩

end J2534Oip
