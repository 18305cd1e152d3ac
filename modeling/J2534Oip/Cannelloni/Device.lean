import J2534Oip.Cannelloni.Client
import J2534Oip.Lib.Run
import J2534Oip.Lib.Table
import Mathlib.Data.List.Infix
import Mathlib.Data.List.Perm.Lattice

/-!
# Opening and closing devices

`PassThruOpen` acquires a socket, then a table entry and a receive thread; it has six
error exits, at different stages.  `PassThruClose` gives all three back.  Over any run of
the two, with receive threads ending early at any time, table and resources stay in step:

    Run Step (World.start …) acts w → InStep acts w ∧ …        (deviceTable_inStep)
-/

namespace J2534Oip

/-! ## The operating system -/

/-- A receive thread that was started and not joined; it serves the context of `channel`. -/
structure RecvThread where
  id : Nat
  channel : UInt32
  /-- it has left its loop -/
  ended : Bool
deriving DecidableEq

/-- What the operating system holds for the client. -/
structure Os where
  sockets : List Nat
  threads : List RecvThread

namespace Os

def openSocket (os : Os) (sockfd : Nat) : Os := { os with sockets := sockfd :: os.sockets }

def closesocket (os : Os) (sockfd : Nat) : Os := { os with sockets := os.sockets.erase sockfd }

def startThread (os : Os) (id : Nat) (channel : UInt32) : Os :=
  { os with threads := { id := id, channel := channel, ended := false } :: os.threads }

def join (os : Os) (id : Nat) : Os := { os with threads := os.threads.filter fun t => t.id != id }

/-- Thread `id` leaves its loop. -/
def endThread (os : Os) (id : Nat) : Os :=
  { os with threads := os.threads.map fun t => if t.id = id then { t with ended := true } else t }

end Os

/-- What the calls of one `PassThruOpen` return.  A new socket or thread is none of those
in use. -/
structure OpenEnv (os : Os) where
  /-- `InetPtonA(AF_INET, string, dst)`; the flag says whether `dst` is a buffer -/
  inetPton : List UInt8 → Bool → Int × UInt32
  /-- `socket`; `none` is `INVALID_SOCKET` -/
  socket : Option { sockfd : Nat // sockfd ∉ os.sockets }
  /-- `connect` does not return `SOCKET_ERROR` -/
  connect : Bool
  /-- `send` of the init packet -/
  initSend : Int
  wsaGetLastError : Int
  thread : { id : Nat // id ∉ os.threads.map RecvThread.id }

/-- The client and what the operating system holds for it. -/
structure World where
  client : J2534CannelloniClient
  os : Os

/-! ## `PassThruOpen` -/

/-- `isprint` in the "C" locale -/
def isprint (c : UInt8) : Bool := decide (0x20 ≤ c) && decide (c ≤ 0x7E)

/-- `isValidHostString` -/
def isValidHostString (inetPton : List UInt8 → Bool → Int × UInt32) (str : List UInt8) : Bool :=
  if str.length = 0 ∨ 15 < str.length then false
  else str.all isprint && decide ((inetPton str false).1 = 1)

/-- The port: one named in `pName`, else the default. -/
def selectPort (client : J2534CannelloniClient) (pName : Option (List UInt8)) : UInt32 :=
  match pName with
  | none => client.defaultPort
  | some name =>
    if utf8 "20000" <:+: cString name then 20000
    else if utf8 "20001" <:+: cString name then 20001
    else if utf8 "20002" <:+: cString name then 20002
    else client.defaultPort

/-- The host: `pName` where it is a host, else the default. -/
def selectHost (client : J2534CannelloniClient) (inetPton : List UInt8 → Bool → Int × UInt32)
    (pName : Option (List UInt8)) : List UInt8 :=
  match pName with
  | none => utf8 "127.0.0.1"
  | some name =>
    if isValidHostString inetPton (cString name) then cString name else cString client.defaultHost

/-- `numPorts` -/
def numPorts : Nat := 3

/-- The context moved into the table, its thread not yet started. -/
def newContext (sockfd : Nat) (port sinAddr : UInt32) : ChannelContext :=
  { sockfd := sockfd, targetAddr := ⟨UInt16.ofNat port.toNat, sinAddr⟩, recvThread := none,
    stopRequested := false, seqNo := 0, msgQueue := [] }

/-- What `PassThruOpen` returns, and `*pDeviceID` afterwards (`none` for a null pointer). -/
structure OpenResult where
  retval : J2534Err
  deviceID : Option UInt32

namespace World

/-- An error exit. -/
def openFail (w : World) (os : Os) (text : List UInt8) (err : J2534Err)
    (pDeviceID : Option UInt32) : World × OpenResult :=
  ({ client := w.client.fail text err, os := os }, { retval := err, deviceID := pDeviceID })

/-- `PassThruOpen` -/
def passThruOpen (w : World) (pName : Option (List UInt8)) (pDeviceID : Option UInt32)
    (env : OpenEnv w.os) : World × OpenResult :=
  if pDeviceID.isNone then
    w.openFail w.os (utf8 "pDeviceID is null") .errNullParameter pDeviceID
  else
    let port := selectPort w.client pName
    let host := selectHost w.client env.inetPton pName
    if numPorts ≤ w.client.channelMap.entries.length then
      w.openFail w.os (utf8 "All virtual devices are already opened") .errDeviceInUse pDeviceID
    else if port ∈ w.client.channelMap then
      w.openFail w.os (utf8 "No free ports") .errDeviceInUse pDeviceID
    else
      match env.socket with
      | none =>
        w.openFail w.os (utf8 s!"Socket creation failed: {env.wsaGetLastError}")
          .errDeviceNotConnected pDeviceID
      | some ⟨sockfd, _⟩ =>
        let os := w.os.openSocket sockfd
        let addr := env.inetPton host true
        if addr.1 ≠ 1 then
          w.openFail (os.closesocket sockfd) (utf8 "Invalid host IP: " ++ host)
            .errInvalidDeviceId pDeviceID
        else if env.connect = false then
          w.openFail (os.closesocket sockfd) (utf8 s!"Connect failed: {env.wsaGetLastError}")
            .errDeviceNotConnected pDeviceID
        else
          -- a failed init packet (`env.initSend`) is only printed
          let ctx := { newContext sockfd port addr.2 with recvThread := some env.thread.1 }
          let client := { w.client.setChannel port ctx with lastErrorLong := .statusNoError }
          ({ client := client, os := os.startThread env.thread.1 port },
            { retval := .statusNoError, deviceID := some port })

/-! ## `PassThruClose` -/

/-- `PassThruClose`; it sets `lastError` only, not `lastErrorLong`. -/
def passThruClose (w : World) (deviceID : UInt32) : World × J2534Err :=
  match w.client.channelMap.lookup deviceID with
  | none =>
    ({ w with client := { w.client with lastError := utf8 "DeviceID not found" } },
      .errInvalidDeviceId)
  | some ctx =>
    let os := match ctx.recvThread with
      | some id => w.os.join id
      | none => w.os
    ({ client := { w.client with channelMap := w.client.channelMap.erase deviceID },
       os := os.closesocket ctx.sockfd }, .statusNoError)

end World

/-! ## What one call does -/

namespace World

/-- Three devices are open, or the selected port is. -/
def Busy (w : World) (pName : Option (List UInt8)) : Prop :=
  numPorts ≤ w.client.channelMap.entries.length ∨ selectPort w.client pName ∈ w.client.channelMap

/-- With all it needs an open makes a new socket, entry and thread. -/
theorem passThruOpen_opens (w : World) (pName : Option (List UInt8)) (pDeviceID : UInt32)
    (env : OpenEnv w.os) (hfree : ¬w.Busy pName) (sock : { sockfd : Nat // sockfd ∉ w.os.sockets })
    (hsocket : env.socket = some sock)
    (haddr : (env.inetPton (selectHost w.client env.inetPton pName) true).1 = 1)
    (hconnect : env.connect = true) :
    w.passThruOpen pName (some pDeviceID) env =
      ({ client := { w.client.setChannel (selectPort w.client pName)
            { newContext sock.1 (selectPort w.client pName)
                (env.inetPton (selectHost w.client env.inetPton pName) true).2 with
              recvThread := some env.thread.1 } with
          lastErrorLong := .statusNoError },
         os := (w.os.openSocket sock.1).startThread env.thread.1 (selectPort w.client pName) },
        { retval := .statusNoError, deviceID := some (selectPort w.client pName) }) := by
  obtain ⟨hfull, hport⟩ := not_or.1 hfree
  have hopen : w.passThruOpen pName (some pDeviceID) env = _ := (if_neg hfull).trans (if_neg hport)
  simp only [hsocket] at hopen
  rw [if_neg (fun h => h haddr), if_neg (by simp [hconnect])] at hopen
  exact hopen

/-- The two ends of an open: an error that only sets the error state, with the resources
given back, or a new socket, entry and thread. -/
theorem passThruOpen_cases (w : World) (pName : Option (List UInt8)) (pDeviceID : Option UInt32)
    (env : OpenEnv w.os) :
    (∃ text err, w.passThruOpen pName pDeviceID env = w.openFail w.os text err pDeviceID ∧
      err ≠ .statusNoError ∧ (err = .errDeviceInUse ↔ pDeviceID ≠ none ∧ w.Busy pName)) ∨
    ∃ sockfd ctx, sockfd ∉ w.os.sockets ∧ ctx.sockfd = sockfd ∧
      ctx.recvThread = some env.thread.1 ∧ ctx.msgQueue = [] ∧ ctx.seqNo = 0 ∧
      pDeviceID ≠ none ∧ ¬w.Busy pName ∧
      w.passThruOpen pName pDeviceID env =
        ({ client := { w.client.setChannel (selectPort w.client pName) ctx with
            lastErrorLong := .statusNoError },
           os := (w.os.openSocket sockfd).startThread env.thread.1 (selectPort w.client pName) },
          { retval := .statusNoError, deviceID := some (selectPort w.client pName) }) := by
  have hback : ∀ sockfd, (w.os.openSocket sockfd).closesocket sockfd = w.os := by
    intro sockfd
    simp [Os.openSocket, Os.closesocket]
  cases hdev : pDeviceID with
  | none => exact Or.inl ⟨_, _, rfl, by decide, by simp⟩
  | some v =>
    by_cases hfull : numPorts ≤ w.client.channelMap.entries.length
    · refine Or.inl ⟨_, .errDeviceInUse, if_pos hfull, by decide, ?_⟩
      simp [Busy, hfull]
    by_cases hport : selectPort w.client pName ∈ w.client.channelMap
    · refine Or.inl ⟨_, .errDeviceInUse, (if_neg hfull).trans (if_pos hport), by decide, ?_⟩
      simp [Busy, hport]
    have hbusy : ¬w.Busy pName := fun h => h.elim hfull hport
    -- from here on the error is never `errDeviceInUse`
    have hfail : ∀ text err, err ≠ .statusNoError → err ≠ .errDeviceInUse →
        w.passThruOpen pName (some v) env = w.openFail w.os text err (some v) →
        ∃ text err, w.passThruOpen pName (some v) env = w.openFail w.os text err (some v) ∧
          err ≠ .statusNoError ∧ (err = .errDeviceInUse ↔ some v ≠ none ∧ w.Busy pName) :=
      fun text err h0 huse h => ⟨text, err, h, h0, by simp [huse, hbusy]⟩
    have hopen : w.passThruOpen pName (some v) env = _ := (if_neg hfull).trans (if_neg hport)
    cases hsocket : env.socket with
    | none =>
      simp only [hsocket] at hopen
      exact Or.inl (hfail _ _ (by decide) (by decide) hopen)
    | some sock =>
      obtain ⟨sockfd, hnew⟩ := sock
      simp only [hsocket, hback] at hopen
      by_cases haddr : (env.inetPton (selectHost w.client env.inetPton pName) true).1 = 1
      · rw [if_neg (fun h => h haddr)] at hopen
        cases hconnect : env.connect with
        | false =>
          rw [if_pos hconnect] at hopen
          exact Or.inl (hfail _ _ (by decide) (by decide) hopen)
        | true =>
          have hopens := w.passThruOpen_opens pName v env hbusy _ hsocket haddr hconnect
          exact Or.inr ⟨sockfd, _, hnew, rfl, rfl, rfl, rfl, by simp, hbusy, hopens⟩
      · rw [if_pos haddr] at hopen
        exact Or.inl (hfail _ _ (by decide) (by decide) hopen)

end World

/-! ## Runs -/

/-- What a step shows. -/
inductive DeviceAct
  | opened (result : OpenResult)
  | closed (deviceID : UInt32) (retval : J2534Err)
  | threadEnded (id : Nat)

/-- The system's steps: the two calls, with any arguments and any environment, and a
receive thread that leaves its loop. -/
inductive DeviceStep : World → DeviceAct → World → Prop
  | passThruOpen (w : World) (pName : Option (List UInt8)) (pDeviceID : Option UInt32)
      (env : OpenEnv w.os) :
      DeviceStep w (.opened (w.passThruOpen pName pDeviceID env).2)
        (w.passThruOpen pName pDeviceID env).1
  | passThruClose (w : World) (deviceID : UInt32) :
      DeviceStep w (.closed deviceID (w.passThruClose deviceID).2) (w.passThruClose deviceID).1
  | threadEnded (w : World) (id : Nat) :
      DeviceStep w (.threadEnded id) { w with os := w.os.endThread id }

/-- Nothing is open yet. -/
def World.start (client : J2534CannelloniClient) : World :=
  { client := { client with channelMap := ∅ }, os := { sockets := [], threads := [] } }

/-- The DeviceIDs handed out and not yet closed, after one more act. -/
def handOut (ids : List UInt32) : DeviceAct → List UInt32
  | .opened r => if r.retval = .statusNoError then r.deviceID.toList ++ ids else ids
  | .closed deviceID retval => if retval = .statusNoError then ids.erase deviceID else ids
  | .threadEnded _ => ids

def handedOut (acts : List DeviceAct) : List UInt32 := acts.foldl handOut []

/-! ## Table and resources in step -/

/-- One socket and one thread for each entry and no others, at most three entries, and the
keys are the DeviceIDs that are out. -/
structure InStep (w : World) (ids : List UInt32) : Prop where
  sockets : w.os.sockets.Perm (w.client.channelMap.entries.map fun e => e.2.sockfd)
  socketsNodup : w.os.sockets.Nodup
  threads : (w.os.threads.map fun t => (t.channel, some t.id)).Perm
    (w.client.channelMap.entries.map fun e => (e.1, e.2.recvThread))
  threadsNodup : (w.os.threads.map RecvThread.id).Nodup
  size : w.client.channelMap.entries.length ≤ numPorts
  ids : ids.Perm w.client.channelMap.keys

/-- Table and resources are all that counts. -/
theorem InStep.congr {w w' : World} {ids : List UInt32} (h : InStep w ids)
    (hmap : w'.client.channelMap = w.client.channelMap) (hos : w'.os = w.os) : InStep w' ids := by
  obtain ⟨client, os⟩ := w'
  obtain rfl : os = w.os := hos
  have hmap : client.channelMap = w.client.channelMap := hmap
  refine ⟨?_, h.socketsNodup, ?_, h.threadsNodup, ?_, ?_⟩
  · simpa only [hmap] using h.sockets
  · simpa only [hmap] using h.threads
  · simpa only [hmap] using h.size
  · simpa only [hmap] using h.ids

theorem inStep_start (client : J2534CannelloniClient) : InStep (World.start client) [] where
  sockets := List.Perm.nil
  socketsNodup := List.nodup_nil
  threads := List.Perm.nil
  threadsNodup := List.nodup_nil
  size := Nat.zero_le _
  ids := List.Perm.nil

theorem inStep_open (w : World) (ids : List UInt32) (h : InStep w ids)
    (pName : Option (List UInt8)) (pDeviceID : Option UInt32) (env : OpenEnv w.os) :
    InStep (w.passThruOpen pName pDeviceID env).1
      (handOut ids (.opened (w.passThruOpen pName pDeviceID env).2)) := by
  rcases w.passThruOpen_cases pName pDeviceID env with
    ⟨text, err, hr, herr, -⟩ | ⟨sockfd, ctx, hnew, hsockfd, hthread, -, -, -, hbusy, hr⟩
  · have hids : handOut ids (.opened (w.openFail w.os text err pDeviceID).2) = ids := if_neg herr
    rw [hr, hids]
    exact h.congr rfl rfl
  · obtain ⟨hfull, hport⟩ := not_or.1 hbusy
    rw [hr]
    have hentries : (w.client.channelMap.insert (selectPort w.client pName) ctx).entries =
        ⟨selectPort w.client pName, ctx⟩ :: w.client.channelMap.entries :=
      AList.entries_insert_of_notMem hport
    refine ⟨?_, List.nodup_cons.2 ⟨hnew, h.socketsNodup⟩, ?_,
      List.nodup_cons.2 ⟨env.thread.2, h.threadsNodup⟩, ?_, ?_⟩
    · show (sockfd :: w.os.sockets).Perm ((w.client.channelMap.insert _ ctx).entries.map _)
      rw [hentries, List.map_cons, hsockfd]
      exact h.sockets.cons sockfd
    · show (_ :: w.os.threads.map _).Perm ((w.client.channelMap.insert _ ctx).entries.map _)
      rw [hentries, List.map_cons, hthread]
      exact h.threads.cons _
    · show (w.client.channelMap.insert _ ctx).entries.length ≤ numPorts
      rw [hentries, List.length_cons]
      omega
    · show (selectPort w.client pName :: ids).Perm (w.client.channelMap.insert _ ctx).entries.keys
      rw [hentries, List.keys_cons]
      exact h.ids.cons _

theorem inStep_endThread (w : World) (ids : List UInt32) (h : InStep w ids) (id : Nat) :
    InStep { w with os := w.os.endThread id } ids := by
  have hsame : ∀ {β : Type} (f : RecvThread → β), (∀ t, f { t with ended := true } = f t) →
      (w.os.endThread id).threads.map f = w.os.threads.map f := by
    intro β f hf
    simp only [Os.endThread, List.map_map]
    apply List.map_congr_left
    intro t _
    simp only [Function.comp]
    split
    · exact hf t
    · rfl
  refine ⟨h.sockets, h.socketsNodup, ?_, ?_, h.size, h.ids⟩
  · show ((w.os.endThread id).threads.map _).Perm _
    rw [hsame _ fun _ => rfl]
    exact h.threads
  · show ((w.os.endThread id).threads.map RecvThread.id).Nodup
    rw [hsame _ fun _ => rfl]
    exact h.threadsNodup

/-- Joining takes away the thread with that id and no other. -/
theorem perm_join (os : Os) (h : (os.threads.map RecvThread.id).Nodup) (t : RecvThread)
    (ht : t ∈ os.threads) : os.threads.Perm (t :: (os.join t.id).threads) := by
  have herase : os.threads.erase t = (os.join t.id).threads := by
    rw [(List.Nodup.of_map _ h).erase_eq_filter]
    apply List.filter_congr
    intro u hu
    by_cases hut : u = t
    · simp [hut]
    · have hid : u.id ≠ t.id := fun e => hut (List.inj_on_of_nodup_map h hu ht e)
      rw [bne_iff_ne.2 hut, bne_iff_ne.2 hid]
  rw [← herase]
  exact List.perm_cons_erase ht

/-- A close that succeeds removes the entry, its socket and its thread. -/
structure Removes (w : World) (deviceID : UInt32) (w' : World) (ctx : ChannelContext)
    (t : RecvThread) : Prop where
  entry : w.client.channelMap.lookup deviceID = some ctx
  thread : ctx.recvThread = some t.id
  channel : t.channel = deviceID
  channelMap : w'.client.channelMap = w.client.channelMap.erase deviceID
  sockets : w.os.sockets.Perm (ctx.sockfd :: w'.os.sockets)
  threads : w.os.threads.Perm (t :: w'.os.threads)

theorem passThruClose_removes (w : World) (ids : List UInt32) (h : InStep w ids)
    (deviceID : UInt32) (hret : (w.passThruClose deviceID).2 = .statusNoError) :
    ∃ ctx t, Removes w deviceID (w.passThruClose deviceID).1 ctx t := by
  cases hctx : w.client.channelMap.lookup deviceID with
  | none =>
    simp only [World.passThruClose, hctx] at hret
    cases hret
  | some ctx =>
    have hentries := AList.perm_entries_erase hctx
    have hthreads := h.threads.trans (hentries.map _)
    obtain ⟨t, ht, hpair⟩ := List.mem_map.1 (hthreads.symm.subset List.mem_cons_self)
    obtain ⟨hchannel, hid⟩ := Prod.mk.inj hpair
    have hsocket : ctx.sockfd ∈ w.os.sockets :=
      (h.sockets.trans (hentries.map _)).symm.subset List.mem_cons_self
    have hclose : (w.passThruClose deviceID).1 =
        { client := { w.client with channelMap := w.client.channelMap.erase deviceID },
          os := (w.os.join t.id).closesocket ctx.sockfd } := by
      simp only [World.passThruClose, hctx]
      rw [← hid]
    rw [hclose]
    exact ⟨ctx, t, hctx, hid.symm, hchannel, rfl, List.perm_cons_erase hsocket,
      perm_join w.os h.threadsNodup t ht⟩

theorem inStep_close (w : World) (ids : List UInt32) (h : InStep w ids) (deviceID : UInt32) :
    InStep (w.passThruClose deviceID).1
      (handOut ids (.closed deviceID (w.passThruClose deviceID).2)) := by
  by_cases hret : (w.passThruClose deviceID).2 = .statusNoError
  · obtain ⟨ctx, t, hrem⟩ := passThruClose_removes w ids h deviceID hret
    have hentries := AList.perm_entries_erase hrem.entry
    have hkeys : (handOut ids (.closed deviceID (w.passThruClose deviceID).2)) =
        ids.erase deviceID := if_pos hret
    rw [hkeys]
    have hsockets := hrem.sockets.symm.trans (h.sockets.trans (hentries.map _))
    have hthreads := (hrem.threads.map fun t => (t.channel, some t.id)).symm.trans
      (h.threads.trans (hentries.map _))
    have hlen := hentries.length_eq
    refine ⟨?_, ?_, ?_, ?_, ?_, ?_⟩
    · rw [hrem.channelMap]
      exact hsockets.cons_inv
    · exact (List.nodup_cons.1 (hrem.sockets.nodup_iff.1 h.socketsNodup)).2
    · rw [hrem.channelMap]
      rw [List.map_cons, List.map_cons, hrem.channel, ← hrem.thread] at hthreads
      exact hthreads.cons_inv
    · have hnodup := (hrem.threads.map RecvThread.id).nodup_iff.1 h.threadsNodup
      exact (List.nodup_cons.1 hnodup).2
    · rw [hrem.channelMap]
      have hsize := h.size
      simp only [List.length_cons] at hlen
      omega
    · rw [hrem.channelMap, AList.keys_erase]
      exact h.ids.erase deviceID
  · have hids : handOut ids (.closed deviceID (w.passThruClose deviceID).2) = ids := if_neg hret
    rw [hids]
    cases hctx : w.client.channelMap.lookup deviceID with
    | none =>
      simp only [World.passThruClose, hctx]
      exact h.congr rfl rfl
    | some ctx => exact absurd (by simp only [World.passThruClose, hctx]) hret

/-- **Table and resources stay in step** over any run. -/
theorem inStep_run (client : J2534CannelloniClient) (acts : List DeviceAct) (w : World)
    (h : Run DeviceStep (World.start client) acts w) : InStep w (handedOut acts) := by
  refine h.invariant (I := fun acts w => InStep w (handedOut acts)) (inStep_start client) ?_
  intro acts w act w' _ hin hstep
  have hnext : handedOut (acts ++ [act]) = handOut (handedOut acts) act := by
    simp [handedOut]
  rw [hnext]
  cases hstep with
  | passThruOpen pName pDeviceID env => exact inStep_open w _ hin pName pDeviceID env
  | passThruClose deviceID => exact inStep_close w _ hin deviceID
  | threadEnded id => exact inStep_endThread w _ hin id

/-- What an open leaves alone when it fails, and when it answers `ERR_DEVICE_IN_USE`. -/
structure OpenKeeps (w : World) (pName : Option (List UInt8)) (pDeviceID : Option UInt32)
    (r : World × OpenResult) : Prop where
  channelMap : r.2.retval ≠ .statusNoError → r.1.client.channelMap = w.client.channelMap
  os : r.2.retval ≠ .statusNoError → r.1.os = w.os
  deviceID : r.2.retval ≠ .statusNoError → r.2.deviceID = pDeviceID
  inUse : r.2.retval = .errDeviceInUse ↔ pDeviceID ≠ none ∧
    (w.client.channelMap.entries.length = 3 ∨ selectPort w.client pName ∈ w.client.channelMap)

theorem openKeeps (w : World) (ids : List UInt32) (h : InStep w ids)
    (pName : Option (List UInt8)) (pDeviceID : Option UInt32) (env : OpenEnv w.os) :
    OpenKeeps w pName pDeviceID (w.passThruOpen pName pDeviceID env) := by
  have hsize : w.client.channelMap.entries.length ≤ 3 := h.size
  have hbusy : w.Busy pName ↔ w.client.channelMap.entries.length = 3 ∨
      selectPort w.client pName ∈ w.client.channelMap := by
    have hfull : numPorts ≤ w.client.channelMap.entries.length ↔
        w.client.channelMap.entries.length = 3 := by
      show 3 ≤ _ ↔ _
      omega
    rw [World.Busy, hfull]
  rcases w.passThruOpen_cases pName pDeviceID env with
    ⟨text, err, hr, herr, huse⟩ | ⟨sockfd, ctx, -, -, -, -, -, -, hfree, hr⟩
  · rw [hr]
    exact ⟨fun _ => rfl, fun _ => rfl, fun _ => rfl, by rw [← hbusy]; exact huse⟩
  · rw [hr]
    exact ⟨fun hne => absurd rfl hne, fun hne => absurd rfl hne, fun hne => absurd rfl hne,
      by rw [← hbusy]; simp [hfree]⟩

/-- **Device table and operating system.**  In every reachable state the table, the sockets,
the threads and the DeviceIDs handed out are in step; an open that fails changes none of them;
an open answers `ERR_DEVICE_IN_USE` exactly when all three devices or the selected port are
taken; a close that succeeds removes what belongs to its entry and nothing else. -/
theorem deviceTable_inStep (client : J2534CannelloniClient) (acts : List DeviceAct) (w : World)
    (h : Run DeviceStep (World.start client) acts w) :
    InStep w (handedOut acts) ∧
      (∀ pName pDeviceID env, OpenKeeps w pName pDeviceID (w.passThruOpen pName pDeviceID env)) ∧
      ∀ deviceID, (w.passThruClose deviceID).2 = .statusNoError →
        ∃ ctx t, Removes w deviceID (w.passThruClose deviceID).1 ctx t := by
  have hin := inStep_run client acts w h
  exact ⟨hin, openKeeps w _ hin, passThruClose_removes w _ hin⟩

/-- Device 20001 opened by name: it is handed out, with one socket and one thread. -/
theorem deviceTable_inStep_opened :
    let start := World.start J2534CannelloniClient.oneOpen
    let env : OpenEnv start.os :=
      { inetPton := fun _ dst => if dst then (1, 0x7F000001) else (-1, 0)
        socket := some ⟨7, List.not_mem_nil⟩
        connect := true
        initSend := 5
        wsaGetLastError := 0
        thread := ⟨1, List.not_mem_nil⟩ }
    let r := start.passThruOpen (some (utf8 "20001")) (some 0) env
    handedOut [.opened r.2] = [20001] ∧ InStep r.1 (handedOut [.opened r.2]) := by
  intro start env r
  have hrun : Run DeviceStep start [.opened r.2] r.1 :=
    Run.start.next (DeviceStep.passThruOpen start (some (utf8 "20001")) (some 0) env)
  exact ⟨by decide, (deviceTable_inStep J2534CannelloniClient.oneOpen _ _ hrun).1⟩

end J2534Oip
