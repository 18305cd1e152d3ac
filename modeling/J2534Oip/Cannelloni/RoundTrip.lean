import J2534Oip.Cannelloni.Identifier
import J2534Oip.Cannelloni.Parse
import Mathlib.Data.List.TakeWhile

/-!
# What a client sends, read by the receive loop

An open sends an init packet without frames, a write one frame a datagram.  The network may
lose, repeat and reorder them.  The receive loop takes the datagrams up to the first whose
message has less than 8 data bytes: it expects the data field whole, and leaves its loop
there.  Over any run of calls and any choice of the datagrams it sent:

    (receiveLoop version r polls).msgQueue =
        r.msgQueue ++ (sent.takeWhile Sent.whole).filterMap Sent.readBack
                                                                    (receiveLoop_sent)

A message that is read has the bytes that were written unless the frame is extended and
bit 7 of its identifier is clear, and two frames are taken for one exactly where they clash
on the wire.
-/

namespace J2534Oip

open Bytes

/-! ## Datagrams of a client -/

/-- `initPkt` -/
def initPacket (version : UInt8) : List UInt8 :=
  CannelloniDataPacket.toBytes
    { version := version, opCode := OpCodes.data.code, seqNo := 0, count := 0 }

theorem initPacket_eq (version : UInt8) : initPacket version = [version, 0, 0, 0, 0] := by
  have hcount : leBytes 2 (UInt16.toNat 0) = [0, 0] := by decide
  rw [initPacket, CannelloniDataPacket.toBytes, hcount, OpCodes.code]

/-- What a client gives to its socket. -/
inductive Sent
  | init
  | frame (seqNo : UInt8) (msg : PassthruMsg)

namespace Sent

/-- A frame goes out for a message that passed the check of `PassThruWriteMsgs`. -/
def Valid : Sent → Prop
  | .init => True
  | .frame _ msg => Accepted msg

def datagram (version : UInt8) : Sent → Datagram
  | .init =>
    { bytes := initPacket version
      pos := by simp [initPacket_eq]
      le := by simp [initPacket_eq, maxPacketSize] }
  | .frame seqNo msg => buildDatagram version seqNo msg

/-- No frame, or one with 8 data bytes. -/
def whole : Sent → Bool
  | .init => true
  | .frame _ msg => decide (msg.dataSize.toNat = 12)

end Sent

/-- The message of a whole frame: the identifier as it went out, and no flags. -/
def readBack (msg : PassthruMsg) : PassthruMsg :=
  { PassthruMsg.zero with
    protocolID := can
    dataSize := 12
    data := dataOf (leBytes 4 (buildCanId msg).toNat ++ msg.bytes 4 maxCanFrameDataLen) }

def Sent.readBack : Sent → Option PassthruMsg
  | .init => none
  | .frame _ msg => some (J2534Oip.readBack msg)

/-! ## One datagram -/

section
variable (version seqNo : UInt8) (msg : PassthruMsg) (h : Accepted msg)
include h

theorem bytes_frame : (buildDatagram version seqNo msg).bytes =
    [version, 0, seqNo, 1, 0] ++ (leBytes 4 (buildCanId msg).toNat ++
      buildLength msg :: msg.bytes 4 (msg.dataSize.toNat - 4)) :=
  buildPacket_layout version seqNo msg ((accepted_iff msg).1 h)

theorem count_frame : (buildDatagram version seqNo msg).count = 1 := by
  rw [Datagram.count, bytes_frame version seqNo msg h]
  rfl

/-- The frame has room for its data field only with all 8 bytes. -/
theorem wellFormed_frame :
    (buildDatagram version seqNo msg).wellFormed version = true ↔ msg.dataSize.toNat = 12 := by
  have hlow := h.low
  have hhigh := h.high
  have hlen : (buildDatagram version seqNo msg).bytes.length = 10 + (msg.dataSize.toNat - 4) :=
    (wireDatagram_buildPacket version seqNo msg h).length
  have hversion : (buildDatagram version seqNo msg).bytes.getD 0 0 = version := by
    rw [bytes_frame version seqNo msg h]
    rfl
  simp only [Datagram.wellFormed, hlen, count_frame version seqNo msg h, hversion,
    sizeofDataPacket, sizeofCanFrame, Bool.and_eq_true, decide_eq_true_eq, and_true]
  omega

/-- A whole frame is read into one message, whatever the buffer held. -/
theorem messages_frame (mem : Mem) (hsize : msg.dataSize.toNat = 12) :
    (buildDatagram version seqNo msg).messages mem = [readBack msg] := by
  have hbytes := bytes_frame version seqNo msg h
  have hlength : (buildLength msg).toNat = 8 := by
    rw [toNat_buildLength msg ((accepted_iff msg).1 h), hsize]
  rw [hsize] at hbytes
  have hsize18 : (buildDatagram version seqNo msg).bytes.length = 18 := by
    rw [hbytes]
    simp
  have hframeLength : frameLength (recv mem (buildDatagram version seqNo msg)) 0 =
      buildLength msg := by
    rw [frameLength_recv _ _ _ (by rw [hsize18]; decide), Datagram.lengthByte, hbytes]
    rfl
  have hids : leBytes 4 (frameId (recv mem (buildDatagram version seqNo msg)) 0).toNat =
      leBytes 4 (buildCanId msg).toNat := by
    have hrange := recv_range mem (buildDatagram version seqNo msg) 5 4 (by omega)
    rw [hbytes] at hrange
    rw [leBytes_frameId]
    exact hrange
  have hpayload : (payloadSources (recv mem (buildDatagram version seqNo msg)) 0).map
      (recv mem (buildDatagram version seqNo msg)) = msg.bytes 4 8 := by
    have hrange := recv_range mem (buildDatagram version seqNo msg) 10 8 (by omega)
    rw [hbytes] at hrange
    rw [payloadSources, hframeLength, hlength, List.map_map]
    exact hrange
  have hdata : frameDataSize (recv mem (buildDatagram version seqNo msg)) 0 = 12 := by
    rw [frameDataSize, hframeLength, hlength]
  rw [Datagram.messages_eq, count_frame version seqNo msg h]
  show [frameMsg (recv mem (buildDatagram version seqNo msg)) 0] = [readBack msg]
  rw [frameMsg, hdata, hids, hpayload]
  rfl

end

theorem bytes_init (version : UInt8) :
    (Sent.datagram version .init).bytes = [version, 0, 0, 0, 0] := initPacket_eq version

theorem Sent.wellFormed_datagram (version : UInt8) (x : Sent) (h : x.Valid) :
    (x.datagram version).wellFormed version = x.whole := by
  cases x with
  | init =>
    simp [Datagram.wellFormed, Datagram.count, bytes_init, ofLE, sizeofDataPacket, Sent.whole]
  | frame seqNo msg =>
    rw [Bool.eq_iff_iff, Sent.datagram, wellFormed_frame version seqNo msg h, Sent.whole,
      decide_eq_true_eq]

/-- No datagram is well-formed to another version. -/
theorem wellFormed_otherVersion (version version' : UInt8) (x : Sent) (h : x.Valid)
    (hne : version ≠ version') : (x.datagram version).wellFormed version' = false := by
  have hversion : (x.datagram version).bytes.getD 0 0 = version := by
    cases x with
    | init => rw [bytes_init]; rfl
    | frame seqNo msg => rw [Sent.datagram, bytes_frame version seqNo msg h]; rfl
  rw [Datagram.wellFormed, hversion, decide_eq_false hne, Bool.and_false, Bool.false_and]

theorem Sent.messages_datagram (version : UInt8) (mem : Mem) (x : Sent) (h : x.Valid)
    (hwhole : x.whole = true) : (x.datagram version).messages mem = x.readBack.toList := by
  cases x with
  | init =>
    have hcount : (Sent.datagram version .init).count = 0 := by
      rw [Datagram.count, bytes_init]
      rfl
    rw [Datagram.messages, hcount]
    rfl
  | frame seqNo msg => exact messages_frame version seqNo msg h mem (of_decide_eq_true hwhole)

/-- What is read of datagrams does not depend on what they are said to be. -/
theorem readable_eq (version : UInt8) (sent sent' : List Sent) (hvalid : ∀ x ∈ sent, x.Valid)
    (hvalid' : ∀ x ∈ sent', x.Valid)
    (h : sent.map (Sent.datagram version) = sent'.map (Sent.datagram version)) :
    (sent.takeWhile Sent.whole).filterMap Sent.readBack =
        (sent'.takeWhile Sent.whole).filterMap Sent.readBack ∧
      ((∀ x ∈ sent, x.whole = true) ↔ ∀ x ∈ sent', x.whole = true) := by
  induction sent generalizing sent' with
  | nil =>
    obtain rfl : sent' = [] := List.map_eq_nil_iff.1 h.symm
    exact ⟨rfl, Iff.rfl⟩
  | cons x sent ih =>
    obtain ⟨y, sent', rfl, hdatagram, hrest⟩ := List.map_eq_cons_iff.1 h.symm
    obtain ⟨hx, hvalid⟩ := List.forall_mem_cons.1 hvalid
    obtain ⟨hy, hvalid'⟩ := List.forall_mem_cons.1 hvalid'
    obtain ⟨hread, hall⟩ := ih sent' hvalid hvalid' hrest.symm
    have hwhole : y.whole = x.whole := by
      rw [← y.wellFormed_datagram version hy, ← x.wellFormed_datagram version hx, hdatagram]
    rw [List.forall_mem_cons, List.forall_mem_cons, hwhole, hall]
    refine ⟨?_, Iff.rfl⟩
    cases hx' : x.whole with
    | false => rw [List.takeWhile_cons, List.takeWhile_cons, hwhole, hx']; rfl
    | true =>
      have hlist : y.readBack.toList = x.readBack.toList := by
        rw [← y.messages_datagram version (fun _ => 0) hy (hwhole.trans hx'),
          ← x.messages_datagram version (fun _ => 0) hx hx', hdatagram]
      have hback : y.readBack = x.readBack := by simpa using congrArg List.head? hlist
      rw [List.takeWhile_cons_of_pos hx', List.takeWhile_cons_of_pos (hwhole.trans hx'),
        List.filterMap_cons, List.filterMap_cons, hback, hread]

/-! ## The loop -/

/-- **The whole loop**, from any state in which it runs. -/
theorem receiveLoop_datagrams (version : UInt8) (polls : List Poll) (sent : List Sent)
    (r : Receiver) (hr : r.running = true) (hvalid : ∀ x ∈ sent, x.Valid)
    (hsent : datagrams polls = sent.map (Sent.datagram version)) :
    (receiveLoop version r polls).msgQueue =
        r.msgQueue ++ (sent.takeWhile Sent.whole).filterMap Sent.readBack ∧
      ((receiveLoop version r polls).running = true ↔ ∀ x ∈ sent, x.whole = true) := by
  induction polls generalizing sent r with
  | nil =>
    obtain rfl : sent = [] := List.map_eq_nil_iff.1 hsent.symm
    simp [receiveLoop, hr]
  | cons p polls ih =>
    cases p with
    | quiet => exact ih sent r hr hvalid hsent
    | datagram d =>
      obtain ⟨x, sent, rfl, rfl, hrest⟩ := List.map_eq_cons_iff.1 hsent.symm
      obtain ⟨hx, hvalid⟩ := List.forall_mem_cons.1 hvalid
      show (receiveLoop version (r.poll version (.datagram (x.datagram version))) polls).msgQueue =
          _ ∧ ((receiveLoop version (r.poll version (.datagram (x.datagram version))) polls).running =
          true ↔ _)
      rw [poll_datagram version r _ hr, x.wellFormed_datagram version hx]
      cases hwhole : x.whole with
      | true =>
        rw [if_pos rfl, x.messages_datagram version r.buffer hx hwhole]
        obtain ⟨hqueue, hrunning⟩ := ih sent
          { r with
            buffer := recv r.buffer (x.datagram version)
            msgQueue := r.msgQueue ++ x.readBack.toList } hr hvalid hrest.symm
        refine ⟨?_, ?_⟩
        · rw [hqueue, List.takeWhile_cons_of_pos hwhole, List.append_assoc]
          cases x <;> rfl
        · rw [hrunning, List.forall_mem_cons]
          exact (and_iff_right hwhole).symm
      | false =>
        rw [if_neg Bool.false_ne_true, receiveLoop_stopped version _ _ rfl]
        simp [hwhole]

/-! ## What a run sends -/

/-- The run handed these bytes to a socket for the other side: an open its init packet, a write
a frame.  The one byte with which `PassThruClose` wakes its own thread goes to the loopback
address and is left out. -/
def Emitted (version : UInt8) (acts : List WireAct) (bytes : List UInt8) : Prop :=
  (∃ port, .opened port ∈ acts ∧ bytes = initPacket version) ∨
    ∃ channelID sends, .wrote channelID sends ∈ acts ∧ bytes ∈ sends

/-- Each datagram of a write is the frame of a message of the call. -/
theorem writeLoop_frames (version : UInt8) (sendto : Nat → Int) (pMsg : List PassthruMsg)
    (s : WriteState) :
    ∀ send ∈ (writeLoop version sendto pMsg s).1.sends, send ∈ s.sends ∨
      ∃ seqNo, ∃ msg ∈ pMsg, Accepted msg ∧ send.1 = buildPacket version seqNo msg := by
  induction pMsg generalizing sendto s with
  | nil => exact fun send hsend => Or.inl hsend
  | cons msg pMsg ih =>
    intro send hsend
    rw [writeLoop_cons] at hsend
    have hframe (hv : validMsg msg = true) (outcome : Int)
        (hmem : send ∈ s.sends ++ [(buildPacket version s.seqNo msg, outcome)]) :
        send ∈ s.sends ∨ ∃ seqNo, ∃ m ∈ msg :: pMsg, Accepted m ∧
          send.1 = buildPacket version seqNo m := by
      rcases List.mem_append.1 hmem with hold | hnew
      · exact Or.inl hold
      · obtain rfl := List.mem_singleton.1 hnew
        exact Or.inr ⟨s.seqNo, msg, List.mem_cons_self, (accepted_iff msg).2 hv, rfl⟩
    split at hsend
    · next hv =>
      simp only at hsend
      split at hsend
      · rcases ih _ _ send hsend with hmem | ⟨seqNo, m, hm, haccepted, hbytes⟩
        · exact hframe hv _ hmem
        · exact Or.inr ⟨seqNo, m, List.mem_cons_of_mem _ hm, haccepted, hbytes⟩
      · exact hframe hv _ hsend
    · exact Or.inl hsend

theorem passThruWriteMsgs_frames (client : J2534CannelloniClient) (channelID : UInt32)
    (pMsg : List PassthruMsg) (sendto : Nat → Int) (wsa : Int) :
    ∀ send ∈ (client.passThruWriteMsgs channelID pMsg sendto wsa).2.sends,
      ∃ seqNo, ∃ msg ∈ pMsg, Accepted msg ∧
        send.1 = buildPacket client.cannelloniVersion seqNo msg := by
  intro send hsend
  cases hctx : client.channelMap.lookup channelID with
  | none =>
    rw [(client.passThruWriteMsgs_unknown channelID pMsg sendto wsa hctx).2] at hsend
    cases hsend
  | some ctx =>
    rw [(client.passThruWriteMsgs_loop channelID pMsg sendto wsa ctx hctx _ rfl).2] at hsend
    exact (writeLoop_frames _ sendto pMsg (.start ctx.seqNo) send hsend).resolve_left
      List.not_mem_nil

/-! ## The version of a client -/

namespace J2534CannelloniClient

variable (client : J2534CannelloniClient)

theorem version_enqueue (port : UInt32) (msgs : List PassthruMsg) :
    (client.enqueue port msgs).cannelloniVersion = client.cannelloniVersion := by
  unfold enqueue
  split <;> rfl

theorem version_enqueueAll (arrivals : List (UInt32 × List PassthruMsg)) :
    (client.enqueueAll arrivals).cannelloniVersion = client.cannelloniVersion := by
  induction arrivals generalizing client with
  | nil => rfl
  | cons a arrivals ih => exact (ih _).trans (client.version_enqueue a.1 a.2)

theorem version_selectLoop (ids : List UInt32) (threshold timeout : UInt32)
    (passes : List SelectPass) :
    (selectLoop ids threshold timeout client passes).1.cannelloniVersion =
      client.cannelloniVersion := by
  induction passes generalizing client with
  | nil => rfl
  | cons pass passes ih =>
    rw [← client.version_enqueueAll pass.arrivals, selectLoop]
    split
    · rfl
    · simp only []
      split
      · rfl
      · exact ih _

theorem version_passThruWriteMsgs (channelID : UInt32) (pMsg : List PassthruMsg)
    (sendto : Nat → Int) (wsa : Int) :
    (client.passThruWriteMsgs channelID pMsg sendto wsa).1.cannelloniVersion =
      client.cannelloniVersion := by
  cases hctx : client.channelMap.lookup channelID with
  | none => simp only [passThruWriteMsgs, hctx, fail]
  | some ctx =>
    simp only [passThruWriteMsgs, hctx]
    split
    · rfl
    · dsimp only
      split <;> rfl

end J2534CannelloniClient

theorem version_passThruOpen (w : World) (pName : Option (List UInt8)) (pDeviceID : Option UInt32)
    (env : OpenEnv w.os) :
    (w.passThruOpen pName pDeviceID env).1.client.cannelloniVersion =
      w.client.cannelloniVersion := by
  rcases w.passThruOpen_cases pName pDeviceID env with
    ⟨text, err, hr, -, -⟩ | ⟨sockfd, ctx, -, -, -, -, -, -, -, hr⟩
  · rw [hr]
    rfl
  · rw [hr]
    rfl

/-- No call changes the version. -/
theorem version_callStep {s s' : CallState} {act : Option CallAct} (h : CallStep s act s') :
    s'.world.client.cannelloniVersion = s.world.client.cannelloniVersion := by
  cases h with
  | call s' call retval hret =>
    cases hret with
    | passThruOpen pName pDeviceID env => exact version_passThruOpen s.world pName pDeviceID env
    | passThruWriteMsgs channelID pMsg sendto wsa =>
      exact s.world.client.version_passThruWriteMsgs channelID pMsg sendto wsa
    | passThruClose deviceID =>
      simp only [World.passThruClose]
      split <;> rfl
    | passThruConnect deviceID =>
      simp only [CallState.setClient, J2534CannelloniClient.passThruConnect]
      split <;> rfl
    | passThruReadMsgs channelID requested timeout elapsed arrivals =>
      simp only [CallState.setClient, J2534CannelloniClient.passThruReadMsgs]
      split <;> rfl
    | passThruGetLastError pErrorDescription =>
      simp only [CallState.setClient, J2534CannelloniClient.passThruGetLastError]
      split <;> rfl
    | passThruSelect set timeout passes retval hret =>
      simp only [CallState.setClient, J2534CannelloniClient.passThruSelect]
      split
      · rfl
      · split
        · rfl
        · rfl
        · exact s.world.client.version_selectLoop _ _ _ _
    | passThruScanForDevices pDeviceCount =>
      simp only [CallState.passThruScanForDevices]
      split <;> rfl
    | passThruGetNextDevice psDevice =>
      simp only [CallState.passThruGetNextDevice]
      split
      · rfl
      · split <;> rfl
    | passThruGetNextCarDAQ pointers allocName allocAddr =>
      simp only [CallState.passThruGetNextCarDAQ]
      repeat' split
      all_goals rfl
    | fixed f retval hf => rfl
  | received port msgs => exact s.world.client.version_enqueue port msgs
  | threadEnded id => rfl

/-- A step sends init packets and frames of its client's version. -/
theorem emitted_step {s s' : CallState} {act : WireAct} (h : WireStep s act s') :
    s'.world.client.cannelloniVersion = s.world.client.cannelloniVersion ∧
      ∀ channelID sends, act = .wrote channelID sends → ∀ bytes ∈ sends, ∃ seqNo msg,
        Accepted msg ∧ bytes = buildPacket s.world.client.cannelloniVersion seqNo msg := by
  cases h with
  | passThruOpen pName pDeviceID env =>
    refine ⟨version_passThruOpen s.world pName pDeviceID env, fun channelID sends hact => ?_⟩
    split at hact <;> cases hact
  | passThruWriteMsgs channelID pMsg sendto wsa =>
    refine ⟨s.world.client.version_passThruWriteMsgs channelID pMsg sendto wsa, ?_⟩
    rintro _ _ ⟨⟩ bytes hbytes
    obtain ⟨send, hsend, rfl⟩ := List.mem_map.1 hbytes
    obtain ⟨seqNo, msg, -, haccepted, heq⟩ :=
      passThruWriteMsgs_frames s.world.client channelID pMsg sendto wsa send hsend
    exact ⟨seqNo, msg, haccepted, heq⟩
  | other _ act hcall hquiet =>
    refine ⟨version_callStep hcall, ?_⟩
    rintro _ _ ⟨⟩

/-- Whatever a run emitted is an init packet or the frame of an accepted message. -/
theorem emitted_run (defaultHost : List UInt8) (defaultPort : UInt32) (cannelloniVersion : UInt8)
    (wsaStartup : Int) (scanIndex : Nat) (acts : List WireAct) (s : CallState)
    (h : Run WireStep
      (.start defaultHost defaultPort cannelloniVersion wsaStartup scanIndex) acts s) :
    s.world.client.cannelloniVersion = cannelloniVersion ∧
      ∀ bytes, Emitted cannelloniVersion acts bytes →
        ∃ x : Sent, x.Valid ∧ (x.datagram cannelloniVersion).bytes = bytes := by
  refine h.invariant (I := fun acts s => s.world.client.cannelloniVersion = cannelloniVersion ∧
    ∀ bytes, Emitted cannelloniVersion acts bytes →
      ∃ x : Sent, x.Valid ∧ (x.datagram cannelloniVersion).bytes = bytes) ?_ ?_
  · refine ⟨?_, ?_⟩
    · show (J2534CannelloniClient.construct defaultHost defaultPort cannelloniVersion
        wsaStartup).cannelloniVersion = cannelloniVersion
      unfold J2534CannelloniClient.construct
      simp only []
      split <;> rfl
    · rintro bytes (⟨port, hmem, -⟩ | ⟨channelID, sends, hmem, -⟩) <;> cases hmem
  · rintro acts s act s' - ⟨hversion, hall⟩ hstep
    obtain ⟨hkept, hsends⟩ := emitted_step hstep
    refine ⟨hkept.trans hversion, ?_⟩
    rintro bytes (⟨port, -, rfl⟩ | ⟨channelID, sends, hmem, hbytes⟩)
    · exact ⟨.init, trivial, rfl⟩
    · rcases List.mem_append.1 hmem with hold | hnew
      · exact hall bytes (Or.inr ⟨channelID, sends, hold, hbytes⟩)
      · obtain ⟨seqNo, msg, haccepted, rfl⟩ :=
          hsends channelID sends (List.mem_singleton.1 hnew).symm bytes hbytes
        exact ⟨.frame seqNo msg, haccepted, by rw [hversion]; rfl⟩

/-- Datagrams of a run are what a client sends, one by one. -/
theorem exists_sent (defaultHost : List UInt8) (defaultPort : UInt32) (cannelloniVersion : UInt8)
    (wsaStartup : Int) (scanIndex : Nat) (acts : List WireAct) (s : CallState)
    (h : Run WireStep
      (.start defaultHost defaultPort cannelloniVersion wsaStartup scanIndex) acts s)
    (ds : List Datagram) (hds : ∀ d ∈ ds, Emitted cannelloniVersion acts d.bytes) :
    ∃ sent : List Sent, (∀ x ∈ sent, x.Valid) ∧
      ds = sent.map (Sent.datagram cannelloniVersion) := by
  obtain ⟨-, hemitted⟩ := emitted_run _ _ _ _ _ acts s h
  induction ds with
  | nil => exact ⟨[], by simp, rfl⟩
  | cons d ds ih =>
    obtain ⟨hd, hds⟩ := List.forall_mem_cons.1 hds
    obtain ⟨x, hx, hbytes⟩ := hemitted d.bytes hd
    obtain ⟨sent, hvalid, rfl⟩ := ih hds
    refine ⟨x :: sent, List.forall_mem_cons.2 ⟨hx, hvalid⟩, ?_⟩
    have heq : d = x.datagram cannelloniVersion := by
      cases d
      cases hx : x.datagram cannelloniVersion
      simp only [hx] at hbytes
      simp only [hbytes]
    rw [List.map_cons, heq]

/-! ## What is read of a message -/

theorem bytes_readBack (msg : PassthruMsg) :
    (readBack msg).bytes 0 12 = leBytes 4 (buildCanId msg).toNat ++ msg.bytes 4 8 := by
  have hfront := (readBack msg).bytes_dataOf
    (leBytes 4 (buildCanId msg).toNat ++ msg.bytes 4 8) (by simp) rfl
  rwa [List.length_append, length_leBytes, msg.length_bytes] at hfront

/-- Setting bit 7 changes an identifier unless it is set. -/
theorem wireId_eq_iff (msg : PassthruMsg) :
    wireId msg = identifier msg ↔ (Extended msg → (identifier msg).testBit 7 = true) := by
  unfold wireId
  split
  · next hext =>
    constructor
    · intro heq _
      rw [← heq]
      exact testBit_or_markBit _
    · exact fun hbit => or_markBit_of_testBit _ (hbit hext)
  · next hstd => exact iff_of_true rfl fun hext => absurd hext hstd

/-- The bytes come back, except where the flag went into a clear bit of the identifier. -/
theorem bytes_readBack_iff (msg : PassthruMsg) :
    (readBack msg).bytes 0 12 = msg.bytes 0 12 ↔
      (Extended msg → (identifier msg).testBit 7 = true) := by
  rw [← wireId_eq_iff, ← ofBE_canId, bytes_readBack, msg.bytes_add 0 4 8]
  constructor
  · intro heq
    exact congrArg ofBE (List.append_inj heq (by simp)).1
  · intro hid
    rw [ofBE_inj (by simp) hid]

/-- Whole frames are read as one message exactly where they are one on the wire. -/
theorem readBack_eq_iff (msg msg' : PassthruMsg) (h : Accepted msg) (h' : Accepted msg')
    (hsize : msg.dataSize.toNat = 12) (hsize' : msg'.dataSize.toNat = 12) :
    readBack msg = readBack msg' ↔ frameBytes msg = frameBytes msg' := by
  have hpayload : ∀ m : PassthruMsg, m.dataSize.toNat = 12 → payload m = m.bytes 4 8 := by
    intro m hm
    rw [payload, hm]
  rw [frameBytes_eq_iff msg msg' h h', hpayload msg hsize, hpayload msg' hsize', ← ofBE_canId,
    ← ofBE_canId]
  constructor
  · intro heq
    have hbytes := congrArg (fun m => PassthruMsg.bytes m 0 12) heq
    simp only [bytes_readBack] at hbytes
    obtain ⟨hids, hdata⟩ := List.append_inj hbytes (by simp)
    exact ⟨congrArg ofBE hids, hdata⟩
  · rintro ⟨hids, hdata⟩
    have h8 : maxCanFrameDataLen = 8 := rfl
    rw [readBack, readBack, ofBE_inj (by simp) hids, h8, hdata]

/-! ## Main result -/

/-- **A client's datagrams, read.**  Of the datagrams a run of calls emitted, let any be
received, in any order and any number of times.  They are init packets and frames of
accepted messages; the queue grows by the messages of those before the first frame with
less than 8 data bytes, and the thread is still in its loop if there is none.  A message
has the bytes written unless its flag went into a clear bit 7, and different frames stay
different unless they clash. -/
theorem receiveLoop_sent (defaultHost : List UInt8) (defaultPort : UInt32)
    (cannelloniVersion : UInt8) (wsaStartup : Int) (scanIndex : Nat) (acts : List WireAct)
    (s : CallState)
    (hrun : Run WireStep
      (.start defaultHost defaultPort cannelloniVersion wsaStartup scanIndex) acts s)
    (r : Receiver) (hr : r.running = true) (polls : List Poll)
    (hpolls : ∀ d ∈ datagrams polls, Emitted cannelloniVersion acts d.bytes) :
    ∃ sent : List Sent, (∀ x ∈ sent, x.Valid) ∧
      datagrams polls = sent.map (Sent.datagram cannelloniVersion) ∧
      (receiveLoop cannelloniVersion r polls).msgQueue =
        r.msgQueue ++ (sent.takeWhile Sent.whole).filterMap Sent.readBack ∧
      ((receiveLoop cannelloniVersion r polls).running = true ↔ ∀ x ∈ sent, x.whole = true) ∧
      (∀ msg, (readBack msg).bytes 0 12 = msg.bytes 0 12 ↔
        (Extended msg → (identifier msg).testBit 7 = true)) ∧
      ∀ seqNo msg seqNo' msg', .frame seqNo msg ∈ sent.takeWhile Sent.whole →
        .frame seqNo' msg' ∈ sent.takeWhile Sent.whole →
        ((readBack msg = readBack msg' → SameFrame msg msg') ↔ ¬Clash msg msg') := by
  obtain ⟨sent, hvalid, hsent⟩ := exists_sent _ _ _ _ _ acts s hrun (datagrams polls) hpolls
  obtain ⟨hqueue, hrunning⟩ :=
    receiveLoop_datagrams cannelloniVersion polls sent r hr hvalid hsent
  refine ⟨sent, hvalid, hsent, hqueue, hrunning, bytes_readBack_iff, ?_⟩
  intro seqNo msg seqNo' msg' hmem hmem'
  have haccepted : ∀ seqNo msg, Sent.frame seqNo msg ∈ sent.takeWhile Sent.whole →
      Accepted msg ∧ msg.dataSize.toNat = 12 := by
    intro seqNo msg hmem
    have hwhole : (Sent.frame seqNo msg).whole = true := List.mem_takeWhile_imp hmem
    exact ⟨hvalid _ ((List.takeWhile_sublist _).mem hmem), of_decide_eq_true hwhole⟩
  obtain ⟨h, hsize⟩ := haccepted seqNo msg hmem
  obtain ⟨h', hsize'⟩ := haccepted seqNo' msg' hmem'
  rw [readBack_eq_iff msg msg' h h' hsize hsize', frameBytes_inj_iff msg msg' h h']

/-- One open and one write. -/
theorem emitted_opened_wrote (version : UInt8) (port : UInt32) (packets : List (List UInt8)) :
    Emitted version [.opened port, .wrote port packets] (initPacket version) ∧
      ∀ bytes ∈ packets, Emitted version [.opened port, .wrote port packets] bytes :=
  ⟨Or.inl ⟨port, List.mem_cons_self, rfl⟩, fun _ hbytes =>
    Or.inr ⟨port, packets, List.mem_cons_of_mem _ List.mem_cons_self, hbytes⟩⟩

/-- A device is opened and written to; of its datagrams a full frame comes twice, before the
init packet and behind a frame of one data byte. -/
theorem receiveLoop_sent_three :
    let full := extendedFrame [0x18, 0xDA, 0xF1, 0x10, 2, 1, 0, 0, 0, 0, 0, 0]
    let short := PassthruMsg.ofBytes [0, 0, 7, 0xE0, 1]
    let polls : List Poll := [.datagram (buildDatagram 1 0 full), .quiet,
      .datagram (Sent.datagram 1 .init), .datagram (buildDatagram 1 1 short),
      .datagram (buildDatagram 1 0 full)]
    ∃ sent : List Sent, datagrams polls = sent.map (Sent.datagram 1) ∧
      (receiveLoop 1 ⟨fun _ => 0, true, []⟩ polls).msgQueue =
        [] ++ (sent.takeWhile Sent.whole).filterMap Sent.readBack := by
  intro full short polls
  let start := CallState.start (utf8 "127.0.0.1") 20000 1 0 0
  let env : OpenEnv start.world.os :=
    { inetPton := fun _ dst => if dst then (1, 0x7F000001) else (-1, 0)
      socket := some ⟨7, List.not_mem_nil⟩
      connect := true
      initSend := 5
      wsaGetLastError := 0
      thread := ⟨1, List.not_mem_nil⟩ }
  have hopen := Run.start.next (WireStep.passThruOpen start none (some 0) env)
  have hwrite := hopen.next
    (WireStep.passThruWriteMsgs _ 20000 [full, short] (fun k => 18 - 7 * k) 0)
  let acts : List WireAct :=
    [.opened 20000, .wrote 20000 [buildPacket 1 0 full, buildPacket 1 1 short]]
  have hrun : Run WireStep start acts _ := hwrite
  obtain ⟨hinit, hframe⟩ :=
    emitted_opened_wrote 1 20000 [buildPacket 1 0 full, buildPacket 1 1 short]
  obtain ⟨sent, -, hsent, hqueue, -⟩ := receiveLoop_sent _ _ 1 _ _ acts _ hrun
    ⟨fun _ => 0, true, []⟩ rfl polls (by
      intro d hd
      simp only [polls, datagrams, List.mem_cons, List.not_mem_nil, or_false] at hd
      rcases hd with rfl | rfl | rfl | rfl
      · exact hframe _ List.mem_cons_self
      · exact hinit
      · exact hframe _ (List.mem_cons_of_mem _ List.mem_cons_self)
      · exact hframe _ List.mem_cons_self)
  exact ⟨sent, hsent, hqueue⟩

end J2534Oip
