import J2534Oip.Cannelloni.RoundTrip
import J2534Oip.Cannelloni.Session
import J2534Oip.Lib.Network

/-!
# Clients on a network

Any number of clients, each with its sessions, its receive threads and writes of its program.
Datagrams may be lost, repeated and reordered, and reach any receive thread; nothing else
sends any.  Over every interleaving

    a message that is read is `readBack` of one that was written before    (read_was_written)

of 12 bytes, and by a client of the same data version.
-/

namespace J2534Oip

open Mailbox

/-! ## A client -/

/-- What a client does, with what it sends or receives. -/
inductive ClientAct
  | session (act : SessionAct) (sent : List (List UInt8))
  | received (d : Datagram) (act : SessionAct)
  | wrote (channelID : UInt32) (pMsg : List PassthruMsg) (sent : List (List UInt8))

namespace ClientAct

def emits : ClientAct → List (List UInt8)
  | session _ sent => sent
  | received _ _ => []
  | wrote _ _ sent => sent

def takes : ClientAct → Option (List UInt8)
  | session _ _ => none
  | received d _ => some d.bytes
  | wrote _ _ _ => none

end ClientAct

/-- What an act is to a port's mailbox. -/
def ClientAct.at (p : UInt32) : ClientAct → Mailbox.Act PassthruMsg
  | .session act _ => act.at p
  | .received _ act => act.at p
  | .wrote _ _ _ => .quiet

/-- The datagram by which `PassThruClose` wakes the receive thread. -/
def wakeDatagram : List UInt8 := [0]

/-- The steps of `SessionStep`, and writes.  An open sends an init packet, a close a byte;
whichever step it is, it sends no more than such.  A write holds `globalMutex` throughout, and
what is sent is on the network from its beginning. -/
inductive ClientStep : System → ClientAct → System → Prop
  | session (s s' : System) (act : SessionAct) (sent : List (List UInt8))
      (h : SessionStep s act s') (hlocal : ∀ port msgs, act ≠ .enqueued port msgs)
      (hsent : ∀ bytes ∈ sent,
        bytes = initPacket s.world.client.cannelloniVersion ∨ bytes = wakeDatagram) :
      ClientStep s (.session act sent) s'
  | receive (s : System) (t : RecvThread) (ht : t ∈ s.world.os.threads) (hrun : t.ended = false)
      (ctx : ChannelContext) (hctx : s.channel t.channel = some ctx) (d : Datagram) :
      ClientStep s (.received d (s.receive t ctx d).2) (s.receive t ctx d).1
  | write (s : System) (hfree : s.call = none) (channelID : UInt32) (pMsg : List PassthruMsg)
      (sendto : Nat → Int) (wsaGetLastError : Int) :
      ClientStep s
        (.wrote channelID pMsg ((s.world.client.passThruWriteMsgs channelID pMsg sendto
          wsaGetLastError).2.sends.map Prod.fst))
        { s with world := { s.world with
          client := (s.world.client.passThruWriteMsgs channelID pMsg sendto wsaGetLastError).1 } }

/-! ## Each step is one of the mailboxes -/

/-- A write leaves every queue alone. -/
theorem queue_passThruWriteMsgs (client : J2534CannelloniClient) (channelID : UInt32)
    (pMsg : List PassthruMsg) (sendto : Nat → Int) (wsa : Int) (p : UInt32) :
    ((client.passThruWriteMsgs channelID pMsg sendto wsa).1.channelMap.lookup p).map
        ChannelContext.msgQueue =
      (client.channelMap.lookup p).map ChannelContext.msgQueue := by
  cases hctx : client.channelMap.lookup channelID with
  | none => simp only [J2534CannelloniClient.passThruWriteMsgs, hctx, J2534CannelloniClient.fail]
  | some ctx =>
    have hset : ∀ seqNo, ((client.setChannel channelID { ctx with seqNo := seqNo }).channelMap.lookup
        p).map ChannelContext.msgQueue =
          (client.channelMap.lookup p).map ChannelContext.msgQueue := by
      intro seqNo
      show ((client.channelMap.insert channelID _).lookup p).map _ = _
      by_cases h : p = channelID
      · subst h
        rw [AList.lookup_insert, hctx]
        rfl
      · rw [AList.lookup_insert_ne h]
    simp only [J2534CannelloniClient.passThruWriteMsgs, hctx]
    split
    · exact hset _
    · dsimp only
      split <;> exact hset _

theorem mailbox_clientStep {s s' : System} {act : ClientAct} (h : ClientStep s act s')
    (p : UInt32) : Step (s.mailbox p) (act.at p) (s'.mailbox p) := by
  cases h with
  | session _ act sent h hlocal hsent => exact mailbox_step h p
  | receive t ht hrun ctx hctx d => exact s.mailbox_receive t ctx hctx d p
  | write hfree channelID pMsg sendto wsa =>
    have hqueue := queue_passThruWriteMsgs s.world.client channelID pMsg sendto wsa p
    show Step (s.mailbox p) .quiet { queue := _, inHand := s.inHand p }
    rw [System.channel, hqueue]
    exact Step.quiet _

/-! ## What a client sends and takes in -/

theorem version_sessionStep {s s' : System} {act : SessionAct} (h : SessionStep s act s') :
    s'.world.client.cannelloniVersion = s.world.client.cannelloniVersion := by
  cases h with
  | passThruOpen hfree pName pDeviceID env stack =>
    rw [← version_passThruOpen s.world pName pDeviceID env]
    simp only [System.passThruOpen]
    split <;> rfl
  | receive t ht hrun ctx hctx d =>
    simp only [System.receive]
    split <;> rfl
  | closeUnknown hfree deviceID hctx =>
    simp only [World.passThruClose]
    split <;> rfl
  | closeEnd deviceID hcall hjoin ctx hctx =>
    simp only [World.passThruClose]
    split <;> rfl
  | threadStops t ht ctx hctx hstop => rfl
  | closeBegin hfree deviceID ctx hctx => rfl
  | readUnknown hfree channelID hctx requested => rfl
  | readBegin hfree channelID ctx hctx requested timeout => rfl
  | readPop channelID requested timeout got hcall ctx hctx elapsed msg queue hpass => rfl
  | readEnd channelID requested timeout got hcall ctx hctx elapsed hpass => rfl

/-- What an act of a client of this version sends, and what it makes of a datagram. -/
def ActOk (version : UInt8) : ClientAct → Prop
  | .session act sent => (∀ port msgs, act ≠ .enqueued port msgs) ∧
      ∀ bytes ∈ sent, bytes = initPacket version ∨ bytes = wakeDatagram
  | .received d act => ∀ port msgs, act = .enqueued port msgs →
      ∃ mem, parseDatagram version d.bytes.length (recv mem d) = some msgs
  | .wrote _ pMsg sent => ∀ bytes ∈ sent, ∃ seqNo, ∃ msg ∈ pMsg, Accepted msg ∧
      bytes = buildPacket version seqNo msg

theorem actOk_step {s s' : System} {act : ClientAct} (h : ClientStep s act s') :
    s'.world.client.cannelloniVersion = s.world.client.cannelloniVersion ∧
      ActOk s.world.client.cannelloniVersion act := by
  cases h with
  | session _ act sent h hlocal hsent => exact ⟨version_sessionStep h, hlocal, hsent⟩
  | receive t ht hrun ctx hctx d =>
    refine ⟨version_sessionStep (SessionStep.receive s t ht hrun ctx hctx d), ?_⟩
    intro port msgs hact
    refine ⟨s.buffers t.channel, ?_⟩
    cases hparse : parseDatagram s.world.client.cannelloniVersion d.bytes.length
        (recv (s.buffers t.channel) d) with
    | none =>
      simp only [System.receive, hparse] at hact
      cases hact
    | some msgs' =>
      simp only [System.receive, hparse, SessionAct.enqueued.injEq] at hact
      rw [hact.2]
  | write hfree channelID pMsg sendto wsa =>
    refine ⟨s.world.client.version_passThruWriteMsgs channelID pMsg sendto wsa, ?_⟩
    intro bytes hbytes
    obtain ⟨send, hsend, rfl⟩ := List.mem_map.1 hbytes
    exact passThruWriteMsgs_frames s.world.client channelID pMsg sendto wsa send hsend

theorem actOk_run (client : J2534CannelloniClient) (buffers : UInt32 → Mem)
    (acts : List ClientAct) (s : System)
    (h : Run ClientStep (System.start client buffers) acts s) :
    s.world.client.cannelloniVersion = client.cannelloniVersion ∧
      ∀ act ∈ acts, ActOk client.cannelloniVersion act := by
  refine h.invariant (I := fun acts s =>
    s.world.client.cannelloniVersion = client.cannelloniVersion ∧
      ∀ act ∈ acts, ActOk client.cannelloniVersion act) ⟨rfl, by simp⟩ ?_
  rintro acts s act s' - ⟨hversion, hall⟩ hstep
  obtain ⟨hkept, hok⟩ := actOk_step hstep
  refine ⟨hkept.trans hversion, fun act' hmem => ?_⟩
  rcases List.mem_append.1 hmem with hold | hnew
  · exact hall act' hold
  · obtain rfl := List.mem_singleton.1 hnew
    exact hversion ▸ hok

/-- A datagram with the bytes of one that was sent, by a client of another version or the same. -/
theorem parse_sent (version version' : UInt8) (x : Sent) (h : x.Valid) (d : Datagram)
    (hd : d.bytes = (x.datagram version').bytes) (mem : Mem) (msgs : List PassthruMsg)
    (hparse : parseDatagram version d.bytes.length (recv mem d) = some msgs) :
    version' = version ∧ x.whole = true ∧ msgs = x.readBack.toList := by
  have heq : d = x.datagram version' := by
    cases d
    cases hx : x.datagram version'
    simp only [hx] at hd
    simp only [hd]
  subst heq
  rw [parseDatagram_eq] at hparse
  by_cases hversion : version' = version
  · subst hversion
    rw [x.wellFormed_datagram version' h] at hparse
    cases hwhole : x.whole with
    | false =>
      rw [hwhole, if_neg Bool.false_ne_true] at hparse
      cases hparse
    | true =>
      rw [hwhole, if_pos rfl, x.messages_datagram version' mem h hwhole] at hparse
      exact ⟨rfl, rfl, (Option.some.inj hparse).symm⟩
  · rw [wellFormed_otherVersion version' version x h hversion, if_neg Bool.false_ne_true] at hparse
    cases hparse

/-! ## Main result -/

/-- A message of 12 bytes that a client of this version was given to write, and accepts. -/
def Written {κ : Type*} (client : κ → J2534CannelloniClient) (acts : List (κ × ClientAct))
    (version : UInt8) (msg : PassthruMsg) : Prop :=
  Accepted msg ∧ msg.dataSize.toNat = 12 ∧ ∃ k channelID pMsg sent,
    (k, .wrote channelID pMsg sent) ∈ acts ∧ msg ∈ pMsg ∧ (client k).cannelloniVersion = version

theorem Written.mono {κ : Type*} {client : κ → J2534CannelloniClient}
    {acts acts' : List (κ × ClientAct)} {version : UInt8} {msg : PassthruMsg}
    (h : Written client acts version msg) (hsub : acts ⊆ acts') :
    Written client acts' version msg := by
  obtain ⟨haccepted, hsize, k, channelID, pMsg, sent, hmem, hrest⟩ := h
  exact ⟨haccepted, hsize, k, channelID, pMsg, sent, hsub hmem, hrest⟩

theorem at_eq_put {p : UInt32} {act : SessionAct} {msgs : List PassthruMsg}
    (h : act.at p = .put msgs) : act = .enqueued p msgs := by
  cases act with
  | enqueued port msgs' =>
    simp only [SessionAct.at] at h
    split at h
    · next hport =>
      rw [hport, Act.put.inj h]
    · cases h
  | quiet => cases h
  | opened port =>
    simp only [SessionAct.at] at h
    split at h <;> cases h
  | closed port dropped =>
    simp only [SessionAct.at] at h
    split at h <;> cases h
  | read channelID requested delivered numMsgs retval =>
    simp only [SessionAct.at] at h
    split at h <;> cases h

section
variable {κ : Type*} [DecidableEq κ] (client : κ → J2534CannelloniClient)
  (buffers : κ → UInt32 → Mem)

/-- Clients as they are constructed. -/
def clients : Network κ System (List UInt8) :=
  Network.start fun k => System.start (client k) (buffers k)

/-- The network's steps: one of a client, that receives what some client sent. -/
abbrev ClientsStep : Network κ System (List UInt8) → κ × ClientAct →
    Network κ System (List UInt8) → Prop :=
  Network.NetStep ClientStep ClientAct.emits ClientAct.takes

variable {client buffers}

/-- What a receive thread enqueues was written before. -/
theorem enqueued_written {acts : List (κ × ClientAct)} {n : Network κ System (List UInt8)}
    (h : Run ClientsStep (clients client buffers) acts n) (before after : List (κ × ClientAct))
    (k : κ) (d : Datagram) (port : UInt32) (msgs : List PassthruMsg)
    (hacts : acts = before ++ (k, .received d (.enqueued port msgs)) :: after) :
    ∀ m ∈ msgs, ∃ msg, Written client before (client k).cannelloniVersion msg ∧
      m = readBack msg := by
  have hok : ∀ k act, (k, act) ∈ acts → ActOk (client k).cannelloniVersion act := by
    intro k act hmem
    exact (actOk_run _ _ _ _ (Network.peer_run h k)).2 act (Network.mem_actsOf.2 hmem)
  have hown : ActOk (client k).cannelloniVersion (.received d (.enqueued port msgs)) :=
    hok k _ (by rw [hacts]; simp)
  obtain ⟨mem, hparse⟩ := hown port msgs rfl
  obtain ⟨k', act, hbefore, hsent⟩ := Network.taken_run h before after k _ hacts d.bytes rfl
  have hsender := hok k' act (by rw [hacts]; exact List.mem_append_left _ hbefore)
  intro m hm
  cases act with
  | session act sent =>
    rcases hsender.2 d.bytes hsent with hinit | hwake
    · obtain ⟨-, -, rfl⟩ := parse_sent _ _ .init trivial d hinit mem msgs hparse
      cases hm
    · rw [hwake] at hparse
      cases hparse
  | received d' act => cases hsent
  | wrote channelID pMsg sent =>
    obtain ⟨seqNo, msg, hmsg, haccepted, hframe⟩ := hsender d.bytes hsent
    obtain ⟨hversion, hwhole, rfl⟩ :=
      parse_sent _ _ (.frame seqNo msg) haccepted d hframe mem msgs hparse
    obtain rfl := List.mem_singleton.1 hm
    exact ⟨msg, ⟨haccepted, of_decide_eq_true hwhole, k', channelID, pMsg, sent, hbefore, hmsg,
      hversion⟩, rfl⟩

/-- What a read returns was enqueued, and was written before. -/
theorem delivered_written {es : List (κ × ClientAct)} {n n' : Network κ System (List UInt8)}
    (hrun : Run ClientsStep (clients client buffers) es n) {k : κ} {channelID : UInt32}
    {requested : Nat} {delivered : List PassthruMsg} {numMsgs : Nat} {retval : J2534Err}
    {sent : List (List UInt8)}
    (hstep : ClientsStep n
      (k, .session (.read channelID requested delivered numMsgs retval) sent) n') :
    ∀ m ∈ delivered, ∃ msg, Written client es (client k).cannelloniVersion msg ∧
      m = readBack msg := by
  have hrun' := hrun.next hstep
  have hpeer := Network.peer_run hrun' k
  have hmailbox : Run Step closed _ _ :=
    hpeer.map (·.mailbox channelID) (·.at channelID) fun _ _ _ _ _ hs =>
      mailbox_clientStep hs channelID
  have hput : ∀ msgs, .put msgs ∈ (Network.actsOf k (es ++ [(k, ClientAct.session
      (.read channelID requested delivered numMsgs retval) sent)])).map (·.at channelID) →
      ∀ m ∈ msgs, ∃ msg, Written client es (client k).cannelloniVersion msg ∧
        m = readBack msg := by
    intro msgs hmem
    obtain ⟨act, hact, hat⟩ := List.mem_map.1 hmem
    have hok := (actOk_run _ _ _ _ hpeer).2 act hact
    have hmem := Network.mem_actsOf.1 hact
    cases act with
    | session act sent' => exact absurd (at_eq_put hat) (hok.1 channelID msgs)
    | wrote channelID' pMsg sent' => cases hat
    | received d act =>
      obtain rfl := at_eq_put hat
      rcases List.mem_append.1 hmem with hold | hnew
      · obtain ⟨before', after', hes⟩ := List.append_of_mem hold
        intro m hm
        obtain ⟨msg, hwritten, heq⟩ :=
          enqueued_written hrun before' after' k d channelID msgs hes m hm
        exact ⟨msg, hwritten.mono (hes ▸ List.subset_append_left before' _), heq⟩
      · cases List.mem_singleton.1 hnew
  refine (only_run hmailbox hput).2 delivered ?_
  rw [List.mem_map]
  refine ⟨_, Network.mem_actsOf.2 (List.mem_append_right _ List.mem_cons_self), ?_⟩
  show (if channelID = channelID then Act.gave delivered else .quiet) = _
  rw [if_pos rfl]

/-- **What is read was written.**  In any run of any number of clients, each message that a
read returns is one of 12 bytes that some client of the same data version was given to write
before, as it reads back: with the bytes that were written, unless its flag went into a clear
bit 7. -/
theorem read_was_written (acts : List (κ × ClientAct)) (n : Network κ System (List UInt8))
    (h : Run ClientsStep (clients client buffers) acts n) (before after : List (κ × ClientAct))
    (k : κ) (channelID : UInt32) (requested : Nat) (delivered : List PassthruMsg) (numMsgs : Nat)
    (retval : J2534Err) (sent : List (List UInt8))
    (hacts : acts = before ++
      (k, .session (.read channelID requested delivered numMsgs retval) sent) :: after) :
    ∀ m ∈ delivered, ∃ msg, Written client before (client k).cannelloniVersion msg ∧
      m = readBack msg ∧
      (m.bytes 0 12 = msg.bytes 0 12 ↔
        (Extended msg → (identifier msg).testBit 7 = true)) := by
  have hread : ∀ m ∈ delivered, ∃ msg, Written client before (client k).cannelloniVersion msg ∧
      m = readBack msg := by
    refine h.acts (P := fun before act => act =
      (k, .session (.read channelID requested delivered numMsgs retval) sent) →
        ∀ m ∈ delivered, ∃ msg, Written client before (client k).cannelloniVersion msg ∧
          m = readBack msg) ?_ before _ after hacts rfl
    rintro es n _ n' hrun hstep rfl
    exact delivered_written hrun hstep
  intro m hm
  obtain ⟨msg, hwritten, rfl⟩ := hread m hm
  exact ⟨msg, hwritten, rfl, bytes_readBack_iff msg⟩

end

/-- One client writes a frame of 12 bytes; the other receives it twice, and reads two. -/
theorem read_was_written_two :
    let msg := extendedFrame [0x18, 0xDA, 0xF1, 0x10, 2, 1, 0, 0, 0, 0, 0, 0]
    let client : Bool → J2534CannelloniClient := fun _ => .oneOpen
    ∃ before n delivered, delivered.length = 2 ∧
      Run ClientsStep (clients client fun _ _ _ => 0)
        (before ++ [(true, .session (.read 20000 2 delivered 2 .statusNoError) [])]) n ∧
      (false, .wrote 20000 [msg] [buildPacket 1 0 msg]) ∈ before ∧
      ∀ m ∈ delivered, ∃ msg', Written client before 1 msg' ∧ m = readBack msg' := by
  intro msg client
  let init := clients client fun _ _ _ => 0
  let env (k : Bool) : OpenEnv (init.peer k).world.os :=
    { inetPton := fun _ dst => if dst then (1, 0x7F000001) else (-1, 0)
      socket := some ⟨7, List.not_mem_nil⟩
      connect := true
      initSend := 5
      wsaGetLastError := 0
      thread := ⟨1, List.not_mem_nil⟩ }
  have step : ∀ (n : Network Bool System (List UInt8)) (acts : List (Bool × ClientAct)) k e s',
      Run ClientsStep init acts n → ClientStep (n.peer k) e s' →
        (∀ b, e.takes = some b → b ∈ n.wire) →
        Run ClientsStep init (acts ++ [(k, e)])
          { peer := Function.update n.peer k s', wire := n.wire ++ e.emits } :=
    fun n acts k e s' h hs ht => h.next (Network.NetStep.step n k e s' hs ht)
  have hopen := step _ _ false _ _ Run.start (ClientStep.session _ _ _ [initPacket 1]
    (SessionStep.passThruOpen (init.peer false) rfl none (some 0) (env false) fun _ => 0)
    nofun (by rintro bytes hbytes; exact Or.inl (List.mem_singleton.1 hbytes))) nofun
  have hwrite := step _ _ false _ _ hopen
    (ClientStep.write _ rfl 20000 [msg] (fun _ => 18) 0) nofun
  have hother := step _ _ true _ _ hwrite (ClientStep.session _ _ _ []
    (SessionStep.passThruOpen (init.peer true) rfl none (some 0) (env true) fun _ => 0)
    nofun (by simp)) nofun
  have hreceive := step _ _ true _ _ hother (ClientStep.receive _ ⟨1, 20000, false⟩
    List.mem_cons_self rfl _ rfl (buildDatagram 1 0 msg)) (by rintro b ⟨⟩; decide)
  have hagain := step _ _ true _ _ hreceive (ClientStep.receive _ ⟨1, 20000, false⟩
    List.mem_cons_self rfl _ rfl (buildDatagram 1 0 msg)) (by rintro b ⟨⟩; decide)
  have hbegin := step _ _ true _ _ hagain (ClientStep.session _ _ _ []
    (SessionStep.readBegin _ rfl 20000 _ rfl 2 0) nofun (by simp)) nofun
  have hpop := step _ _ true _ _ hbegin (ClientStep.session _ _ _ []
    (SessionStep.readPop _ 20000 2 0 [] rfl _ rfl 0 _ _ rfl) nofun (by simp)) nofun
  have hpop := step _ _ true _ _ hpop (ClientStep.session _ _ _ []
    (SessionStep.readPop _ 20000 2 0 _ rfl _ rfl 0 _ _ rfl) nofun (by simp)) nofun
  have hend := step _ _ true _ _ hpop (ClientStep.session _ _ _ []
    (SessionStep.readEnd _ 20000 2 0 _ rfl _ rfl 0 rfl) nofun (by simp)) nofun
  refine ⟨_, _, _, rfl, hend, List.mem_of_getElem? (i := 1) rfl, fun m hm => ?_⟩
  obtain ⟨msg', hwritten, heq, -⟩ := read_was_written _ _ hend _ [] true 20000 2 _ 2
    .statusNoError [] rfl m hm
  exact ⟨msg', hwritten, heq⟩

end J2534Oip
