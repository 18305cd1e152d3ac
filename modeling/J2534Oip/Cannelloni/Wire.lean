import J2534Oip.Cannelloni.Api

/-!
# What a write puts on the wire

A write hands `sendto` one datagram for each of its leading accepted messages, up to and
including the first whose send fails; datagram `i` has sequence byte `seqNo + i`, so the
counter moves by the number of datagrams whatever their sends returned (`writeLoop_sends`).
Only an open and a write touch the counter.  Hence the datagrams of an open session are
numbered from 0 (`sequenced_run`):

    Run WireStep (CallState.start …) acts s →
      (wireSession p acts)[i]? = some d → d[2]? = some (i mod 256)
-/

namespace J2534Oip

open Bytes

/-! ## The messages that are sent -/

/-- A CAN message of 4 ID bytes and at most 8 data bytes. -/
structure Accepted (msg : PassthruMsg) : Prop where
  protocolID : msg.protocolID = can ∨ msg.protocolID = canPs
  low : 4 ≤ msg.dataSize.toNat
  high : msg.dataSize.toNat ≤ 12

theorem accepted_iff (msg : PassthruMsg) : Accepted msg ↔ validMsg msg = true := by
  rw [validMsg_iff]
  constructor
  · rintro ⟨hprotocol, hlow, hhigh⟩
    exact ⟨hprotocol, hlow, hhigh⟩
  · rintro ⟨hprotocol, hlow, hhigh⟩
    exact ⟨hprotocol, hlow, hhigh⟩

/-- Header, ID and length byte, and the data bytes there are. -/
def wireSize (msg : PassthruMsg) : Nat := 10 + (msg.dataSize.toNat - 4)

theorem packetSize_eq (msg : PassthruMsg) (h : Accepted msg) : packetSize msg = wireSize msg := by
  have hlen := toNat_buildLength msg ((accepted_iff msg).1 h)
  have h8 : maxCanFrameDataLen = 8 := rfl
  have h12 := h.high
  rw [packetSize, wireSize, hlen]
  omega

/-- The first `k` messages are those sent: all are accepted, the sends of all but the last
go through, and the loop has a reason not to go on. -/
structure Leading (sendto : Nat → Int) (pMsg : List PassthruMsg) (k : Nat) : Prop where
  le : k ≤ pMsg.length
  accepted : ∀ msg ∈ pMsg.take k, Accepted msg
  sent : ∀ i msg, i + 1 < k → pMsg[i]? = some msg → sendto i = wireSize msg
  stops : ∀ msg, pMsg[k]? = some msg → ¬Accepted msg ∨
    ∃ i last, k = i + 1 ∧ pMsg[i]? = some last ∧ sendto i ≠ wireSize last

theorem leading_zero (sendto : Nat → Int) (pMsg : List PassthruMsg)
    (h : ∀ msg, pMsg[0]? = some msg → ¬Accepted msg) : Leading sendto pMsg 0 where
  le := Nat.zero_le _
  accepted := by simp
  sent i _ hi := absurd hi (Nat.not_lt_zero _)
  stops msg hmsg := Or.inl (h msg hmsg)

/-- The first message is sent, and its send fails. -/
theorem leading_failed (sendto : Nat → Int) (msg : PassthruMsg) (pMsg : List PassthruMsg)
    (h : Accepted msg) (hfail : sendto 0 ≠ wireSize msg) : Leading sendto (msg :: pMsg) 1 where
  le := Nat.succ_le_succ (Nat.zero_le _)
  accepted := by
    intro msg' hmem
    obtain rfl : msg' = msg := by simpa using hmem
    exact h
  sent i _ hi := by omega
  stops _ _ := Or.inr ⟨0, msg, rfl, rfl, hfail⟩

/-- The first message is sent, and the loop goes on. -/
theorem leading_succ (sendto : Nat → Int) (msg : PassthruMsg) (pMsg : List PassthruMsg) (k : Nat)
    (h : Accepted msg) (hsent : sendto 0 = wireSize msg)
    (hk : Leading (fun i => sendto (i + 1)) pMsg k) : Leading sendto (msg :: pMsg) (k + 1) where
  le := Nat.succ_le_succ hk.le
  accepted := by
    intro msg' hmem
    rw [List.take_succ_cons, List.mem_cons] at hmem
    rcases hmem with rfl | hmem
    · exact h
    · exact hk.accepted msg' hmem
  sent := by
    intro i msg' hi hmsg
    cases i with
    | zero =>
      obtain rfl : msg = msg' := Option.some.inj hmsg
      exact hsent
    | succ i => exact hk.sent i msg' (Nat.lt_of_succ_lt_succ hi) hmsg
  stops := by
    intro msg' hmsg
    rcases hk.stops msg' hmsg with hnot | ⟨i, last, rfl, hlast, hfail⟩
    · exact Or.inl hnot
    · exact Or.inr ⟨i + 1, last, rfl, hlast, hfail⟩

/-! ## The datagrams -/

/-- The datagram of a message: its length and its bytes, in wire order. -/
structure WireDatagram (version seqNo : UInt8) (msg : PassthruMsg) (bytes : List UInt8) : Prop where
  length : bytes.length = 10 + (msg.dataSize.toNat - 4)
  layout : ∃ count ids : List UInt8, count.length = 2 ∧ ids.length = 4 ∧
    bytes = version :: OpCodes.data.code :: seqNo :: (count ++ (ids ++
      UInt8.ofNat (msg.dataSize.toNat - 4) :: msg.bytes 4 (msg.dataSize.toNat - 4))) ∧
    (msg.txFlags &&& can29BitId = 0 → ids = msg.bytes 0 4)
  /-- as the receive loop lays out its buffer -/
  count : ∀ mem : Mem, (CannelloniDataPacket.read fun i => bytes.getD i (mem i)).count = 1

theorem wireDatagram_buildPacket (version seqNo : UInt8) (msg : PassthruMsg) (h : Accepted msg) :
    WireDatagram version seqNo msg (buildPacket version seqNo msg) := by
  have hlayout := buildPacket_layout version seqNo msg ((accepted_iff msg).1 h)
  refine ⟨?_, ⟨[1, 0], leBytes 4 (buildCanId msg).toNat, rfl, length_leBytes _ _, hlayout,
    leBytes_buildCanId msg⟩, ?_⟩
  · rw [length_buildPacket, packetSize_eq msg h, wireSize]
  · intro mem
    rw [hlayout]
    rfl

/-- **What the loop sends**, from any state of it: one datagram for each of the leading
messages, numbered from the counter on. -/
theorem writeLoop_sends (version : UInt8) (sendto : Nat → Int) (pMsg : List PassthruMsg)
    (s : WriteState) :
    ∃ k sends, Leading sendto pMsg k ∧
      (writeLoop version sendto pMsg s).1.seqNo = s.seqNo + UInt8.ofNat k ∧
      (writeLoop version sendto pMsg s).1.sends = s.sends ++ sends ∧ sends.length = k ∧
      ∀ i (hi : i < sends.length), sends[i].2 = sendto i ∧ ∃ msg, pMsg[i]? = some msg ∧
        WireDatagram version (s.seqNo + UInt8.ofNat i) msg sends[i].1 := by
  induction pMsg generalizing sendto s with
  | nil =>
    refine ⟨0, [], leading_zero _ _ (by simp), ?_, (List.append_nil _).symm, rfl, ?_⟩
    · exact (UInt8.add_zero _).symm
    · intro i hi
      exact absurd hi (Nat.not_lt_zero i)
  | cons msg pMsg ih =>
    rw [writeLoop_cons]
    by_cases hv : validMsg msg = true
    · have haccepted := (accepted_iff msg).2 hv
      have hfirst := wireDatagram_buildPacket version s.seqNo msg haccepted
      rw [if_pos hv, packetSize_eq msg haccepted]
      by_cases hs : sendto 0 = wireSize msg
      · obtain ⟨k, sends, hlead, hseq, hsends, hlen, hall⟩ := ih (fun i => sendto (i + 1))
          { seqNo := s.seqNo + 1, sentMsgs := s.sentMsgs + 1,
            sends := s.sends ++ [(buildPacket version s.seqNo msg, sendto 0)] }
        have hnext : ∀ n, s.seqNo + 1 + UInt8.ofNat n = s.seqNo + UInt8.ofNat (n + 1) := by
          intro n
          rw [UInt8.ofNat_add, UInt8.add_assoc, UInt8.add_comm 1]
          rfl
        simp only [if_pos hs]
        refine ⟨k + 1, (buildPacket version s.seqNo msg, sendto 0) :: sends,
          leading_succ sendto msg pMsg k haccepted hs hlead, ?_, ?_, congrArg (· + 1) hlen, ?_⟩
        · rw [hseq]
          exact hnext k
        · rw [hsends, List.append_assoc]
          rfl
        · intro i hi
          cases i with
          | zero => exact ⟨rfl, msg, rfl, by simpa using hfirst⟩
          | succ i =>
            obtain ⟨hout, msg', hmsg, hwire⟩ := hall i (Nat.lt_of_succ_lt_succ hi)
            refine ⟨hout, msg', hmsg, ?_⟩
            rw [← hnext i]
            exact hwire
      · simp only [if_neg hs]
        refine ⟨1, [(buildPacket version s.seqNo msg, sendto 0)],
          leading_failed sendto msg pMsg haccepted hs, rfl, rfl, rfl, ?_⟩
        intro i hi
        obtain rfl : i = 0 := Nat.lt_one_iff.1 hi
        exact ⟨rfl, msg, rfl, by simpa using hfirst⟩
    · rw [if_neg hv]
      refine ⟨0, [], leading_zero _ _ ?_, (UInt8.add_zero _).symm, (List.append_nil _).symm, rfl, ?_⟩
      · rintro msg' ⟨⟩
        rw [accepted_iff]
        exact hv
      · intro i hi
        exact absurd hi (Nat.not_lt_zero i)

/-! ## One call -/

/-- A write on the open channel `channelID`: its datagrams, and the tables before and after. -/
structure Wrote (client client' : J2534CannelloniClient) (channelID : UInt32)
    (ctx : ChannelContext) (pMsg : List PassthruMsg) (sendto : Nat → Int)
    (sends : List (List UInt8 × Int)) (k : Nat) : Prop where
  leading : Leading sendto pMsg k
  length : sends.length = k
  datagram : ∀ i (hi : i < sends.length), sends[i].2 = sendto i ∧ ∃ msg, pMsg[i]? = some msg ∧
    WireDatagram client.cannelloniVersion (UInt8.ofNat (ctx.seqNo.toNat + i)) msg sends[i].1
  counter : client'.channelMap.lookup channelID =
    some { ctx with seqNo := UInt8.ofNat (ctx.seqNo.toNat + k) }
  others : ∀ id, id ≠ channelID → client'.channelMap.lookup id = client.channelMap.lookup id

/-- The counter after `n` more datagrams. -/
theorem seqNo_add (seqNo : UInt8) (n : Nat) :
    seqNo + UInt8.ofNat n = UInt8.ofNat (seqNo.toNat + n) := by
  rw [UInt8.ofNat_add, UInt8.ofNat_toNat]

namespace J2534CannelloniClient

variable (client : J2534CannelloniClient) (channelID : UInt32) (pMsg : List PassthruMsg)
  (sendto : Nat → Int) (wsa : Int)

/-- The table after a write, and what was sent, by its loop. -/
theorem passThruWriteMsgs_loop (ctx : ChannelContext)
    (h : client.channelMap.lookup channelID = some ctx) (r : WriteState × WriteExit)
    (hr : writeLoop client.cannelloniVersion sendto pMsg (.start ctx.seqNo) = r) :
    (client.passThruWriteMsgs channelID pMsg sendto wsa).1.channelMap =
        client.channelMap.insert channelID { ctx with seqNo := r.1.seqNo } ∧
      (client.passThruWriteMsgs channelID pMsg sendto wsa).2.sends = r.1.sends := by
  obtain ⟨s, exit⟩ := r
  simp only [passThruWriteMsgs, h, hr]
  cases exit <;> exact ⟨rfl, rfl⟩

/-- **One write**, on an open channel. -/
theorem passThruWriteMsgs_wrote (ctx : ChannelContext)
    (h : client.channelMap.lookup channelID = some ctx) :
    ∃ k, Wrote client (client.passThruWriteMsgs channelID pMsg sendto wsa).1 channelID ctx pMsg
      sendto (client.passThruWriteMsgs channelID pMsg sendto wsa).2.sends k := by
  obtain ⟨k, sends, hlead, hseq, hsends, hlen, hall⟩ :=
    writeLoop_sends client.cannelloniVersion sendto pMsg (.start ctx.seqNo)
  obtain ⟨hmap, hsent⟩ := client.passThruWriteMsgs_loop channelID pMsg sendto wsa ctx h _ rfl
  have hsends' : (client.passThruWriteMsgs channelID pMsg sendto wsa).2.sends = sends := by
    rw [hsent, hsends]
    rfl
  refine ⟨k, hlead, by rw [hsends', hlen], ?_, ?_, ?_⟩
  · rw [hsends']
    intro i hi
    obtain ⟨hout, msg, hmsg, hwire⟩ := hall i hi
    refine ⟨hout, msg, hmsg, ?_⟩
    rw [← seqNo_add]
    exact hwire
  · rw [hmap, AList.lookup_insert, hseq, ← seqNo_add]
    rfl
  · intro id hid
    rw [hmap, AList.lookup_insert_ne hid]

/-- A write on a channel that is not open sends nothing. -/
theorem passThruWriteMsgs_unknown (h : client.channelMap.lookup channelID = none) :
    (client.passThruWriteMsgs channelID pMsg sendto wsa).1.channelMap = client.channelMap ∧
      (client.passThruWriteMsgs channelID pMsg sendto wsa).2.sends = [] := by
  simp only [passThruWriteMsgs, h]
  exact ⟨rfl, trivial⟩

/-! ## What keeps the counters -/

/-- No channel is new, and each that is there has its counter. -/
def SeqKept (client' : J2534CannelloniClient) : Prop :=
  ∀ p ctx', client'.channelMap.lookup p = some ctx' →
    ∃ ctx, client.channelMap.lookup p = some ctx ∧ ctx'.seqNo = ctx.seqNo

variable {client}

theorem seqKept_of_eq {client' : J2534CannelloniClient}
    (h : client'.channelMap = client.channelMap) : client.SeqKept client' := by
  intro p ctx' hctx
  rw [h] at hctx
  exact ⟨ctx', hctx, rfl⟩

theorem SeqKept.trans {client' client'' : J2534CannelloniClient} (h : client.SeqKept client')
    (h' : client'.SeqKept client'') : client.SeqKept client'' := by
  intro p ctx'' hctx
  obtain ⟨ctx', hctx', hseq'⟩ := h' p ctx'' hctx
  obtain ⟨ctx, hctx, hseq⟩ := h p ctx' hctx'
  exact ⟨ctx, hctx, hseq'.trans hseq⟩

theorem seqKept_insert {client' : J2534CannelloniClient} {q : UInt32} {ctx ctx' : ChannelContext}
    (h : client.channelMap.lookup q = some ctx)
    (hmap : client'.channelMap = client.channelMap.insert q ctx') (hseq : ctx'.seqNo = ctx.seqNo) :
    client.SeqKept client' := by
  intro p ctx'' hctx
  rw [hmap] at hctx
  by_cases hp : p = q
  · subst hp
    rw [AList.lookup_insert] at hctx
    obtain rfl := Option.some.inj hctx
    exact ⟨ctx, h, hseq⟩
  · rw [AList.lookup_insert_ne hp] at hctx
    exact ⟨ctx'', hctx, rfl⟩

theorem seqKept_enqueue (port : UInt32) (msgs : List PassthruMsg) :
    client.SeqKept (client.enqueue port msgs) := by
  unfold enqueue
  split
  · exact seqKept_of_eq rfl
  · next ctx hctx => exact seqKept_insert hctx rfl rfl

theorem seqKept_enqueueAll (arrivals : List (UInt32 × List PassthruMsg)) :
    client.SeqKept (client.enqueueAll arrivals) := by
  induction arrivals generalizing client with
  | nil => exact seqKept_of_eq rfl
  | cons a arrivals ih => exact (seqKept_enqueue a.1 a.2).trans ih

theorem seqKept_selectLoop (ids : List UInt32) (threshold timeout : UInt32)
    (passes : List SelectPass) :
    client.SeqKept (selectLoop ids threshold timeout client passes).1 := by
  fun_induction selectLoop ids threshold timeout client passes with
  | case1 client => exact seqKept_of_eq rfl
  | case2 client pass passes client' htime => exact seqKept_enqueueAll _
  | case3 client pass passes client' htime readyCount hready => exact seqKept_enqueueAll _
  | case4 client pass passes client' htime readyCount hready ih =>
    exact (seqKept_enqueueAll _).trans ih

theorem seqKept_erase (q : UInt32) :
    client.SeqKept { client with channelMap := client.channelMap.erase q } := by
  intro p ctx hctx
  by_cases hp : p = q
  · subst hp
    rw [AList.lookup_erase] at hctx
    cases hctx
  · rw [AList.lookup_erase_ne hp] at hctx
    exact ⟨ctx, hctx, rfl⟩

end J2534CannelloniClient

/-! ## Runs of calls -/

/-- What a step shows on the wire. -/
inductive WireAct
  | quiet
  | opened (port : UInt32)
  | wrote (channelID : UInt32) (datagrams : List (List UInt8))

/-- Calls that are shown, or that show that they failed. -/
def ApiCall.onWire : ApiCall → Bool
  | .passThruOpen _ _ | .passThruWriteMsgs _ _ => true
  | _ => false

/-- The steps of `CallStep`, with the datagrams of a write and the port of an open. -/
inductive WireStep : CallState → WireAct → CallState → Prop
  | passThruOpen (s : CallState) (pName : Option (List UInt8)) (pDeviceID : Option UInt32)
      (env : OpenEnv s.world.os) :
      WireStep s
        (if (s.world.passThruOpen pName pDeviceID env).2.retval = .statusNoError then
          .opened (selectPort s.world.client pName) else .quiet)
        { s with world := (s.world.passThruOpen pName pDeviceID env).1 }
  | passThruWriteMsgs (s : CallState) (channelID : UInt32) (pMsg : List PassthruMsg)
      (sendto : Nat → Int) (wsaGetLastError : Int) :
      WireStep s
        (.wrote channelID ((s.world.client.passThruWriteMsgs channelID pMsg sendto
          wsaGetLastError).2.sends.map Prod.fst))
        (s.setClient (s.world.client.passThruWriteMsgs channelID pMsg sendto wsaGetLastError).1)
  | other (s s' : CallState) (act : Option CallAct) (h : CallStep s act s')
      (hcall : ∀ a, act = some a → a.call.onWire = false) : WireStep s .quiet s'

/-- No step of `CallStep` is missing. -/
theorem wireStep_of_callStep {s s' : CallState} {act : Option CallAct} (h : CallStep s act s') :
    ∃ wireAct, WireStep s wireAct s' := by
  have hother (hcall : ∀ a, act = some a → a.call.onWire = false) :
      ∃ wireAct, WireStep s wireAct s' := ⟨.quiet, WireStep.other s s' act h hcall⟩
  cases h with
  | call s' call retval hret =>
    cases hret with
    | passThruOpen pName pDeviceID env => exact ⟨_, WireStep.passThruOpen s pName pDeviceID env⟩
    | passThruWriteMsgs channelID pMsg sendto wsa =>
      exact ⟨_, WireStep.passThruWriteMsgs s channelID pMsg sendto wsa⟩
    | _ =>
      refine hother ?_
      rintro a ⟨⟩
      rfl
  | received port msgs =>
    refine hother ?_
    rintro a ⟨⟩
  | threadEnded id =>
    refine hother ?_
    rintro a ⟨⟩

/-- The datagrams written on port `p` since it was opened, after one more act. -/
def wire (p : UInt32) (datagrams : List (List UInt8)) : WireAct → List (List UInt8)
  | .quiet => datagrams
  | .opened port => if port = p then [] else datagrams
  | .wrote channelID new => if channelID = p then datagrams ++ new else datagrams

def wireSession (p : UInt32) (acts : List WireAct) : List (List UInt8) := acts.foldl (wire p) []

/-- The sequence byte of each datagram is its index. -/
def Numbered (datagrams : List (List UInt8)) : Prop :=
  ∀ i (hi : i < datagrams.length), datagrams[i][2]? = some (UInt8.ofNat i)

/-- The session of port `p` is numbered, and the counter of the port is where it ends. -/
structure Sequenced (p : UInt32) (datagrams : List (List UInt8)) (client : J2534CannelloniClient) :
    Prop where
  numbered : Numbered datagrams
  counter : ∀ ctx, client.channelMap.lookup p = some ctx →
    ctx.seqNo = UInt8.ofNat datagrams.length

theorem Sequenced.keep {p : UInt32} {datagrams : List (List UInt8)}
    {client client' : J2534CannelloniClient} (h : Sequenced p datagrams client)
    (hkept : client.SeqKept client') : Sequenced p datagrams client' where
  numbered := h.numbered
  counter := by
    intro ctx' hctx'
    obtain ⟨ctx, hctx, hseq⟩ := hkept p ctx' hctx'
    rw [hseq]
    exact h.counter ctx hctx

/-- Datagrams numbered from `n` on extend a session of `n`. -/
theorem numbered_append {datagrams new : List (List UInt8)} (h : Numbered datagrams)
    (hnew : ∀ i (hi : i < new.length), new[i][2]? = some (UInt8.ofNat (datagrams.length + i))) :
    Numbered (datagrams ++ new) := by
  intro i hi
  by_cases hlt : i < datagrams.length
  · rw [List.getElem_append_left hlt]
    exact h i hlt
  · rw [List.getElem_append_right (Nat.le_of_not_lt hlt), hnew]
    congr 2
    omega

theorem WireDatagram.seqByte {version seqNo : UInt8} {msg : PassthruMsg} {bytes : List UInt8}
    (h : WireDatagram version seqNo msg bytes) : bytes[2]? = some seqNo := by
  obtain ⟨count, ids, -, -, hbytes, -⟩ := h.layout
  rw [hbytes]
  rfl

/-! ## One step -/

section
variable {p : UInt32} {datagrams : List (List UInt8)}

theorem sequenced_passThruOpen (w : World) (h : Sequenced p datagrams w.client)
    (pName : Option (List UInt8)) (pDeviceID : Option UInt32) (env : OpenEnv w.os) :
    Sequenced p
      (wire p datagrams (if (w.passThruOpen pName pDeviceID env).2.retval = .statusNoError then
        .opened (selectPort w.client pName) else .quiet))
      (w.passThruOpen pName pDeviceID env).1.client := by
  rcases w.passThruOpen_cases pName pDeviceID env with
    ⟨text, err, hr, herr, -⟩ | ⟨sockfd, ctx, -, -, -, -, hseq, -, -, hr⟩
  · rw [hr, World.openFail]
    simp only [if_neg herr]
    exact h.keep (J2534CannelloniClient.seqKept_of_eq rfl)
  · rw [hr, if_pos rfl]
    by_cases hport : selectPort w.client pName = p
    · -- a session begins, with a new context
      rw [wire, if_pos hport]
      refine ⟨fun i hi => absurd hi (Nat.not_lt_zero i), fun ctx' hctx' => ?_⟩
      obtain rfl : ctx = ctx' := by
        simpa [J2534CannelloniClient.setChannel, hport] using hctx'
      exact hseq
    · rw [wire, if_neg hport]
      refine ⟨h.numbered, fun ctx' hctx' => h.counter ctx' ?_⟩
      have hlookup : (w.client.channelMap.insert (selectPort w.client pName) ctx).lookup p =
          some ctx' := hctx'
      rwa [AList.lookup_insert_ne (Ne.symm hport)] at hlookup

theorem sequenced_passThruWriteMsgs (client : J2534CannelloniClient)
    (h : Sequenced p datagrams client) (channelID : UInt32) (pMsg : List PassthruMsg)
    (sendto : Nat → Int) (wsa : Int) :
    Sequenced p
      (wire p datagrams (.wrote channelID
        ((client.passThruWriteMsgs channelID pMsg sendto wsa).2.sends.map Prod.fst)))
      (client.passThruWriteMsgs channelID pMsg sendto wsa).1 := by
  cases hctx : client.channelMap.lookup channelID with
  | none =>
    obtain ⟨hmap, hsends⟩ := client.passThruWriteMsgs_unknown channelID pMsg sendto wsa hctx
    rw [hsends, wire, List.map_nil, List.append_nil, ite_self]
    exact h.keep (J2534CannelloniClient.seqKept_of_eq hmap)
  | some ctx =>
    obtain ⟨k, hwrote⟩ := client.passThruWriteMsgs_wrote channelID pMsg sendto wsa ctx hctx
    rw [wire]
    by_cases hp : channelID = p
    · subst hp
      have hseq := h.counter ctx hctx
      have hcount : ∀ n, UInt8.ofNat (ctx.seqNo.toNat + n) =
          UInt8.ofNat (datagrams.length + n) := by
        intro n
        rw [← seqNo_add, hseq, UInt8.ofNat_add]
      rw [if_pos rfl]
      refine ⟨numbered_append h.numbered ?_, ?_⟩
      · intro i hi
        rw [List.length_map] at hi
        obtain ⟨-, msg, -, hwire⟩ := hwrote.datagram i hi
        rw [List.getElem_map, hwire.seqByte, hcount]
      · intro ctx' hctx'
        rw [hwrote.counter] at hctx'
        obtain rfl := Option.some.inj hctx'
        rw [List.length_append, List.length_map, hwrote.length]
        exact hcount k
    · rw [if_neg hp]
      refine ⟨h.numbered, fun ctx' hctx' => h.counter ctx' ?_⟩
      rwa [hwrote.others p (Ne.symm hp)] at hctx'

/-- No other step touches a counter. -/
theorem seqKept_callStep {s s' : CallState} {act : Option CallAct} (h : CallStep s act s')
    (hcall : ∀ a, act = some a → a.call.onWire = false) :
    s.world.client.SeqKept s'.world.client := by
  cases h with
  | call s' call retval hret =>
    have hquiet := hcall _ rfl
    cases hret with
    | passThruOpen pName pDeviceID env => cases hquiet
    | passThruWriteMsgs channelID pMsg sendto wsa => cases hquiet
    | passThruClose deviceID =>
      simp only [World.passThruClose]
      split
      · exact J2534CannelloniClient.seqKept_of_eq rfl
      · exact J2534CannelloniClient.seqKept_erase deviceID
    | passThruConnect deviceID =>
      refine J2534CannelloniClient.seqKept_of_eq ?_
      simp only [CallState.setClient, J2534CannelloniClient.passThruConnect]
      split <;> rfl
    | passThruReadMsgs channelID requested timeout elapsed arrivals =>
      simp only [CallState.setClient, J2534CannelloniClient.passThruReadMsgs]
      split
      · exact J2534CannelloniClient.seqKept_of_eq rfl
      · next ctx hctx => exact J2534CannelloniClient.seqKept_insert hctx rfl rfl
    | passThruGetLastError pErrorDescription =>
      refine J2534CannelloniClient.seqKept_of_eq ?_
      simp only [CallState.setClient, J2534CannelloniClient.passThruGetLastError]
      split <;> rfl
    | passThruSelect set timeout passes retval hret =>
      simp only [CallState.setClient, J2534CannelloniClient.passThruSelect]
      split
      · exact J2534CannelloniClient.seqKept_of_eq rfl
      · split
        · exact J2534CannelloniClient.seqKept_of_eq rfl
        · exact J2534CannelloniClient.seqKept_of_eq rfl
        · exact J2534CannelloniClient.seqKept_selectLoop _ _ _ _
    | passThruScanForDevices pDeviceCount =>
      refine J2534CannelloniClient.seqKept_of_eq ?_
      simp only [CallState.passThruScanForDevices]
      split <;> rfl
    | passThruGetNextDevice psDevice =>
      refine J2534CannelloniClient.seqKept_of_eq ?_
      simp only [CallState.passThruGetNextDevice]
      split
      · rfl
      · split <;> rfl
    | passThruGetNextCarDAQ pointers allocName allocAddr =>
      refine J2534CannelloniClient.seqKept_of_eq ?_
      simp only [CallState.passThruGetNextCarDAQ]
      repeat' split
      all_goals rfl
    | fixed f retval hf => exact J2534CannelloniClient.seqKept_of_eq rfl
  | received port msgs => exact J2534CannelloniClient.seqKept_enqueue port msgs
  | threadEnded id => exact J2534CannelloniClient.seqKept_of_eq rfl

theorem sequenced_step {s s' : CallState} {act : WireAct}
    (h : Sequenced p datagrams s.world.client) (hstep : WireStep s act s') :
    Sequenced p (wire p datagrams act) s'.world.client := by
  cases hstep with
  | passThruOpen pName pDeviceID env => exact sequenced_passThruOpen s.world h pName pDeviceID env
  | passThruWriteMsgs channelID pMsg sendto wsa =>
    exact sequenced_passThruWriteMsgs s.world.client h channelID pMsg sendto wsa
  | other _ act hcall hquiet => exact h.keep (seqKept_callStep hcall hquiet)

end

/-! ## Whole runs -/

/-- **Sessions are numbered.**  After any run of calls, with any receive threads, the
datagrams of each open session are numbered from 0. -/
theorem sequenced_run (defaultHost : List UInt8) (defaultPort : UInt32) (cannelloniVersion : UInt8)
    (wsaStartup : Int) (scanIndex : Nat) (acts : List WireAct) (s : CallState)
    (h : Run WireStep
      (.start defaultHost defaultPort cannelloniVersion wsaStartup scanIndex) acts s)
    (p : UInt32) : Sequenced p (wireSession p acts) s.world.client := by
  refine h.invariant (I := fun acts s => Sequenced p (wireSession p acts) s.world.client) ?_ ?_
  · refine ⟨fun i hi => absurd hi (Nat.not_lt_zero i), fun ctx hctx => ?_⟩
    have hempty : (∅ : AList fun _ : UInt32 => ChannelContext).lookup p = some ctx := hctx
    rw [AList.lookup_empty] at hempty
    cases hempty
  · intro acts s act s' _ hseq hstep
    rw [wireSession, List.foldl_append]
    exact sequenced_step hseq hstep

/-- **What a write puts on the wire.**  Each write on an open channel sends its leading
messages, numbered from the counter on, and moves the counter of its channel by their number;
over any run from the constructor on, the datagrams of each session carry 0, 1, 2, … -/
theorem writes_onWire (client : J2534CannelloniClient) (channelID : UInt32) (ctx : ChannelContext)
    (pMsg : List PassthruMsg) (sendto : Nat → Int) (wsaGetLastError : Int)
    (h : client.channelMap.lookup channelID = some ctx)
    (defaultHost : List UInt8) (defaultPort : UInt32) (cannelloniVersion : UInt8)
    (wsaStartup : Int) (scanIndex : Nat) (acts : List WireAct) (s : CallState)
    (hrun : Run WireStep
      (.start defaultHost defaultPort cannelloniVersion wsaStartup scanIndex) acts s) :
    (∃ k, Wrote client (client.passThruWriteMsgs channelID pMsg sendto wsaGetLastError).1 channelID
      ctx pMsg sendto (client.passThruWriteMsgs channelID pMsg sendto wsaGetLastError).2.sends k) ∧
    ∀ p, Numbered (wireSession p acts) :=
  ⟨client.passThruWriteMsgs_wrote channelID pMsg sendto wsaGetLastError ctx h,
    fun p => (sequenced_run _ _ _ _ _ acts s hrun p).numbered⟩

/-- Two messages on a channel whose counter is at 255; and a device opened, then written to
twice. -/
theorem writes_onWire_two :
    let client := J2534CannelloniClient.oneOpen
    let pMsg := [PassthruMsg.ofBytes [0, 0, 7, 0xE0], PassthruMsg.ofBytes [0, 0, 7, 0xE0, 1, 2]]
    let r := client.passThruWriteMsgs 20000 pMsg (fun k => 10 + 2 * k) 0
    let start := CallState.start (utf8 "127.0.0.1") 20000 1 0 0
    ∃ ctx acts s, Run WireStep start acts s ∧ (wireSession 20000 acts).length = 3 ∧
      (∃ k, Wrote client r.1 20000 ctx pMsg (fun k => 10 + 2 * k) r.2.sends k) ∧
      ∀ p, Numbered (wireSession p acts) := by
  intro client pMsg r start
  let env : OpenEnv start.world.os :=
    { inetPton := fun _ dst => if dst then (1, 0x7F000001) else (-1, 0)
      socket := some ⟨7, List.not_mem_nil⟩
      connect := true
      initSend := 5
      wsaGetLastError := 0
      thread := ⟨1, List.not_mem_nil⟩ }
  have hopen := Run.start.next (WireStep.passThruOpen start none (some 0) env)
  have hfirst := hopen.next (WireStep.passThruWriteMsgs _ 20000 pMsg (fun k => 10 + 2 * k) 0)
  have hsecond := hfirst.next (WireStep.passThruWriteMsgs _ 20000 pMsg (fun _ => -1) 10054)
  exact ⟨_, _, _, hsecond, by decide,
    writes_onWire client 20000 _ pMsg (fun k => 10 + 2 * k) 0 rfl _ _ _ _ _ _ _ hsecond⟩

end J2534Oip
