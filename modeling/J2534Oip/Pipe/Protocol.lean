import J2534Oip.Pipe.Server
import Mathlib.Data.List.Forall2

/-!
# The pipe protocol, client to server

Each client's `send`s put frames on its own pipe; the server reads the pipes in pieces, in
any order, while other clients come and go.  What the server hands on for a client is
what the client sent:

    (clientReads c evs).flatten = msgs.flatMap (send L true true) → c stays connected →
      Forall₂ SameMessage msgs (dispatchedTo c (run L init evs).2)   (processData_delivers)

and the client's buffer and size end as they began.  Two parts meet here: `drain_frames`,
about one stream, and `run_client`, about one client among many.
-/

namespace J2534Oip.ExPipeServer

open Bytes ExPipeClient QCborValue QCborMap

/-! ## One stream -/

/-- A frame is two turns: its length, then its body. -/
theorem drain_frame (body rest : List UInt8) (h0 : 1 ≤ body.length) (hlt : body.length < 2 ^ 31) :
    frameReader.drain 0 (frame body ++ rest) =
      ((frameReader.drain 0 rest).1, body :: (frameReader.drain 0 rest).2) := by
  have hlen : (leBytes 4 body.length).length = 4 := length_leBytes 4 _
  have hsize : signed 32 (ofLE (leBytes 4 body.length)) = body.length := by
    have hmod : ofLE (leBytes 4 body.length) = body.length := by
      rw [ofLE_leBytes]
      omega
    rw [hmod]
    exact signed_of_lt 32 body.length (by omega)
  have hturn : frameReader.turn 0 (frame body ++ rest) =
      some ((body.length : Int), body ++ rest, []) := by
    have h4 : 4 ≤ (frame body ++ rest).length := by
      simp only [frame, List.length_append, hlen]
      omega
    show frameTurn 0 (frame body ++ rest) = _
    rw [frameTurn, if_pos ⟨rfl, h4⟩, frame, List.append_assoc, List.take_left' hlen,
      List.drop_left' hlen, hsize]
  have hturn' : frameReader.turn (body.length : Int) (body ++ rest) = some (0, rest, [body]) := by
    have hn : ¬((body.length : Int) = 0 ∧ 4 ≤ (body ++ rest).length) := by omega
    have hs : 0 < (body.length : Int) ∧ (body.length : Int) ≤ (body ++ rest).length := by
      rw [List.length_append]
      omega
    show frameTurn (body.length : Int) (body ++ rest) = _
    rw [frameTurn, if_neg hn, if_pos hs, Int.toNat_natCast, List.take_left, List.drop_left]
  rw [frameReader.drain_turn hturn, frameReader.drain_turn hturn']
  rfl

/-- A stream of whole frames is taken apart into their bodies, and nothing is left. -/
theorem drain_frames (bodies : List (List UInt8))
    (h : ∀ body ∈ bodies, 1 ≤ body.length ∧ body.length < 2 ^ 31) :
    frameReader.drain 0 (bodies.flatMap frame) = ((0, []), bodies) := by
  induction bodies with
  | nil => rfl
  | cons body bodies ih =>
    obtain ⟨h0, hlt⟩ := h body List.mem_cons_self
    rw [List.flatMap_cons, drain_frame body _ h0 hlt,
      ih fun b hb => h b (List.mem_cons_of_mem body hb)]

theorem idle_init : frameReader.Idle ((0, []) : Int × List UInt8) := rfl

/-! ## One client among many -/

variable {κ : Type*} [DecidableEq κ]

/-- What client `c`'s socket yields over a run, read by read. -/
def clientReads (c : κ) : List (Event κ) → List (List UInt8)
  | [] => []
  | .readyRead c' reads _ :: evs => if c' = c then reads ++ clientReads c evs else clientReads c evs
  | .disconnected _ :: evs => clientReads c evs

/-- The messages of a run that came from client `c`. -/
def dispatchedTo (c : κ) (out : List (κ × PipeMessage)) : List PipeMessage :=
  out.filterMap fun p => if p.1 = c then some p.2 else none

theorem dispatchedTo_append (c : κ) (out out' : List (κ × PipeMessage)) :
    dispatchedTo c (out ++ out') = dispatchedTo c out ++ dispatchedTo c out' :=
  List.filterMap_append

theorem dispatchedTo_self (c : κ) (msgs : List PipeMessage) :
    dispatchedTo c (msgs.map fun msg => (c, msg)) = msgs := by
  simp [dispatchedTo, List.filterMap_map]

theorem dispatchedTo_other (c c' : κ) (h : c' ≠ c) (msgs : List PipeMessage) :
    dispatchedTo c (msgs.map fun msg => (c', msg)) = [] := by
  simp [dispatchedTo, List.filterMap_map, h]

/-- The payloads among the frames of a client: the bodies that are CBOR maps. -/
def payloads (L : CborLink) (frames : List (List UInt8)) : List (List UInt8) :=
  frames.filter fun body => isMap (L.fromCbor body)

theorem payloads_append (L : CborLink) (frames frames' : List (List UInt8)) :
    payloads L (frames ++ frames') = payloads L frames ++ payloads L frames' :=
  List.filter_append _ _

/-- The message is built from the payload, over whatever the memory held. -/
def MessageOf (L : CborLink) (payload : List UInt8) (msg : PipeMessage) : Prop :=
  ∃ prior, messageOfFrame L prior payload = some msg

/-- A call hands on a message for each payload, in order. -/
theorem messages_of_payloads (L : CborLink) (prior : Nat → Uninit) (frames : List (List UInt8))
    (k : Nat) : List.Forall₂ (MessageOf L) (payloads L frames)
      ((frames.zipIdx k).filterMap fun frame => messageOfFrame L (prior frame.2) frame.1) := by
  induction frames generalizing k with
  | nil => exact .nil
  | cons body frames ih =>
    have ih := ih (k + 1)
    cases hmap : isMap (L.fromCbor body) with
    | false =>
      have hskip : messageOfFrame L (prior k) body = none := by simp [messageOfFrame, hmap]
      simpa only [payloads, List.filter_cons, hmap, List.zipIdx_cons, List.filterMap_cons, hskip,
        Bool.false_eq_true, if_false] using ih
    | true =>
      have hmsg : messageOfFrame L (prior k) body =
          some (messageOfMap (prior k) (toMap (L.fromCbor body))) := by
        simp [messageOfFrame, hmap]
      simp only [payloads, List.filter_cons, hmap, List.zipIdx_cons, List.filterMap_cons, hmsg,
        if_true]
      exact .cons ⟨prior k, hmsg⟩ ih

/-- The payloads of client `c` over a run, call by call. -/
def dispatchedPayloads (L : CborLink) (c : κ) : ExPipeServer κ → List (Event κ) → List (List UInt8)
  | _, [] => []
  | s, .readyRead c' reads prior :: evs =>
    (if c' = c then payloads L (readLoop (s.client c) reads).2 else []) ++
      dispatchedPayloads L c (step L s (.readyRead c' reads prior)).1 evs
  | s, .disconnected c' :: evs => dispatchedPayloads L c (handleSocketDisconnected s c') evs

/-- Over a run too, a message is handed on for each payload, in order. -/
theorem run_messages (L : CborLink) (c : κ) (s : ExPipeServer κ) (evs : List (Event κ)) :
    List.Forall₂ (MessageOf L) (dispatchedPayloads L c s evs) (dispatchedTo c (run L s evs).2) := by
  induction evs generalizing s with
  | nil => exact .nil
  | cons ev evs ih =>
    cases ev with
    | disconnected c' => exact ih (handleSocketDisconnected s c')
    | readyRead c' reads prior =>
      have ih := ih (step L s (.readyRead c' reads prior)).1
      show List.Forall₂ _ _ (dispatchedTo c ((step L s (.readyRead c' reads prior)).2 ++ _))
      rw [dispatchedTo_append]
      refine List.rel_append ?_ ih
      by_cases hcc : c' = c
      · subst hcc
        rw [if_pos rfl]
        simp only [step, dispatchedTo_self]
        exact messages_of_payloads L prior _ 0
      · rw [if_neg hcc]
        simp only [step, dispatchedTo_other c c' hcc]
        exact .nil

/-- An event of another client leaves `c`'s buffer and size alone. -/
theorem step_client_other (L : CborLink) (s : ExPipeServer κ) (c c' : κ) (h : c' ≠ c)
    (reads : List (List UInt8)) (prior : Nat → Uninit) :
    (step L s (.readyRead c' reads prior)).1.client c = s.client c ∧
      (handleSocketDisconnected s c').client c = s.client c := by
  constructor <;> simp [step, processData, handleSocketDisconnected, client, h.symm]

theorem step_client_self (L : CborLink) (s : ExPipeServer κ) (c : κ) (reads : List (List UInt8))
    (prior : Nat → Uninit) :
    (step L s (.readyRead c reads prior)).1.client c = (frameReader.feed (s.client c) reads).1 := by
  simp [step, processData, client, readLoop_eq_feed]

/-- **A client is served as if it were alone.**  Its reads, cut out of the run, drive its
reader; the others' reads and disconnects do not matter. -/
theorem run_client (L : CborLink) (s : ExPipeServer κ) (c : κ) (evs : List (Event κ))
    (hc : .disconnected c ∉ evs) :
    (run L s evs).1.client c = (frameReader.feed (s.client c) (clientReads c evs)).1 ∧
      dispatchedPayloads L c s evs =
        payloads L (frameReader.feed (s.client c) (clientReads c evs)).2 := by
  induction evs generalizing s with
  | nil => exact ⟨rfl, rfl⟩
  | cons ev evs ih =>
    obtain ⟨hev, hevs⟩ : Event.disconnected c ≠ ev ∧ Event.disconnected c ∉ evs := by
      simpa [List.mem_cons, not_or] using hc
    cases ev with
    | disconnected c' =>
      have hne : c' ≠ c := fun e => hev (by rw [e])
      have hsame := (step_client_other L s c c' hne [] fun _ => ⟨0, 0, 0, 0⟩).2
      have ih := ih (handleSocketDisconnected s c') hevs
      rw [hsame] at ih
      exact ih
    | readyRead c' reads prior =>
      have ih := ih (step L s (.readyRead c' reads prior)).1 hevs
      by_cases hcc : c' = c
      · subst hcc
        have hreads : clientReads c' (.readyRead c' reads prior :: evs) =
            reads ++ clientReads c' evs := if_pos rfl
        rw [step_client_self] at ih
        refine ⟨?_, ?_⟩
        · rw [hreads, frameReader.feed_append]
          exact ih.1
        · rw [hreads, frameReader.feed_append, payloads_append, ← ih.2, ← readLoop_eq_feed]
          simp only [dispatchedPayloads, if_true]
      · have hreads : clientReads c (.readyRead c' reads prior :: evs) = clientReads c evs :=
          if_neg hcc
        rw [(step_client_other L s c c' hcc reads prior).1] at ih
        rw [hreads]
        refine ⟨ih.1, ?_⟩
        rw [← ih.2]
        simp only [dispatchedPayloads, if_neg hcc, List.nil_append]

/-! ## One message -/

/-- The seven fields agree; a `QString` is compared as the UTF-8 it came from. -/
structure SameMessage (msg : Message) (received : PipeMessage) : Prop where
  id : received.id = msg.id
  type : received.type = msg.type
  dataType : received.dataType = msg.dataType
  timestamp : received.timestamp = msg.timestamp
  path : utf8 received.path = msg.path
  message : utf8 received.message = msg.message
  data : received.data = msg.data

/-- What the server makes of a message. -/
def received (msg : Message) : PipeMessage :=
  { id := msg.id, type := msg.type, dataType := msg.dataType, timestamp := msg.timestamp,
    path := ofUtf8 msg.path, message := ofUtf8 msg.message, data := msg.data }

theorem sameMessage_received (L : CborLink) (msg : Message) (h : Sendable L msg) :
    SameMessage msg (received msg) where
  id := rfl
  type := rfl
  dataType := rfl
  timestamp := rfl
  path := utf8_ofUtf8 msg.path h.path.1
  message := utf8_ofUtf8 msg.message h.message.1
  data := rfl

/-- Every key of the map `send` builds is found, with the value it was put with. -/
theorem messageOfMap_messageMap (L : CborLink) (msg : Message) (h : Sendable L msg)
    (prior : Uninit) : messageOfMap prior (toMap (messageMap msg)) = received msg := by
  have hpath := cString_eq msg.path h.path.2
  have hmessage := cString_eq msg.message h.message.2
  have hmap : messageOfMap prior (toMap (messageMap msg)) =
      { id := UInt32.ofInt msg.id.toNat, type := UInt32.ofInt msg.type.toNat,
        dataType := UInt32.ofInt msg.dataType.toNat, timestamp := Int64.ofInt msg.timestamp.toInt,
        path := ofUtf8 (cString msg.path), message := ofUtf8 (cString msg.message),
        data := msg.data } := rfl
  rw [hmap, uint32_ofInt_toNat, uint32_ofInt_toNat, uint32_ofInt_toNat, Int64.ofInt_toInt, hpath,
    hmessage]
  rfl

/-- A frame `send` wrote is decoded to its message, whatever the memory held. -/
theorem messageOfFrame_sent (L : CborLink) (msg : Message) (h : Sendable L msg)
    (cbor : List UInt8) (hw : L.encoderWrite (messageMap msg) = some cbor) (prior : Uninit) :
    messageOfFrame L prior cbor = some (received msg) := by
  have htree : L.fromCbor cbor = messageMap msg :=
    L.fromCbor_of_write _ cbor (messageMap_wellFormed L msg h) hw
  have hmap : isMap (messageMap msg) = true := rfl
  rw [messageOfFrame, htree, if_pos hmap, messageOfMap_messageMap L msg h prior]

/-! ## The protocol -/

/-- The bodies of the frames a client sent. -/
def bodyOf (L : CborLink) (msg : Message) : List UInt8 := (L.encoderWrite (messageMap msg)).getD []

theorem encoderWrite_sendable (L : CborLink) (msg : Message) (h : Sendable L msg) :
    L.encoderWrite (messageMap msg) = some (bodyOf L msg) := by
  obtain ⟨cbor, hw, -⟩ := h.size
  rw [bodyOf, hw]
  rfl

/-- The stream of a client is drained to the bodies of its messages. -/
theorem drain_sent (L : CborLink) (msgs : List Message) (h : ∀ msg ∈ msgs, Sendable L msg) :
    frameReader.drain 0 (msgs.flatMap (send L true true)) = ((0, []), msgs.map (bodyOf L)) := by
  have hstream : msgs.flatMap (send L true true) = (msgs.map (bodyOf L)).flatMap frame := by
    rw [List.flatMap_map]
    apply List.flatMap_congr
    intro msg hmsg
    exact send_ok L msg _ (encoderWrite_sendable L msg (h msg hmsg))
  rw [hstream]
  apply drain_frames
  intro body hbody
  obtain ⟨msg, hmsg, rfl⟩ := List.mem_map.1 hbody
  obtain ⟨cbor, hw, h0, hlt⟩ := (h msg hmsg).size
  rw [bodyOf, hw]
  exact ⟨h0, hlt⟩

/-- The message of a frame in zeroed memory; for a sent frame, its message. -/
def decode (L : CborLink) : List UInt8 → Option PipeMessage := messageOfFrame L ⟨0, 0, 0, 0⟩

/-- Payloads are the frames that have a message. -/
theorem isMap_eq_isSome_decode (L : CborLink) (body : List UInt8) :
    isMap (L.fromCbor body) = (decode L body).isSome := by
  unfold decode messageOfFrame
  split <;> simp [*]

/-- The message handed on for a sent frame is the message sent. -/
theorem received_of_messageOf (L : CborLink) (msg : Message) (h : Sendable L msg)
    (msg' : PipeMessage) (hof : MessageOf L (bodyOf L msg) msg') : msg' = received msg := by
  obtain ⟨prior, hprior⟩ := hof
  rw [messageOfFrame_sent L msg h _ (encoderWrite_sendable L msg h) prior] at hprior
  exact (Option.some.inj hprior).symm

/-- **Each client's messages arrive as they were sent.**  Whatever the other clients do and
however the stream of `c` is cut, the server hands on exactly its messages, in order,
each once, and ends with an empty buffer and size 0. -/
theorem processData_delivers (L : CborLink) (c : κ) (msgs : List Message)
    (hmsgs : ∀ msg ∈ msgs, Sendable L msg) (evs : List (Event κ))
    (hbytes : (clientReads c evs).flatten = msgs.flatMap (send L true true))
    (hc : Event.disconnected c ∉ evs) :
    List.Forall₂ SameMessage msgs (dispatchedTo c (run L init evs).2) ∧
      (run L init evs).1.buffers c = [] ∧ (run L init evs).1.sizes c = 0 := by
  have hfeed : frameReader.feed ((init : ExPipeServer κ).client c) (clientReads c evs) =
      ((0, []), msgs.map (bodyOf L)) := by
    have hclient : (init : ExPipeServer κ).client c = (0, []) := rfl
    rw [hclient, frameReader.feed_eq_drain _ _ idle_init, hbytes]
    exact drain_sent L msgs hmsgs
  obtain ⟨hstate, hpayloads⟩ := run_client L init c evs hc
  have hmap : payloads L (msgs.map (bodyOf L)) = msgs.map (bodyOf L) := by
    rw [payloads, List.filter_eq_self]
    intro body hbody
    obtain ⟨msg, hmsg, rfl⟩ := List.mem_map.1 hbody
    have hw := encoderWrite_sendable L msg (hmsgs msg hmsg)
    rw [isMap_eq_isSome_decode, decode, messageOfFrame_sent L msg (hmsgs msg hmsg) _ hw]
    rfl
  have hout := run_messages L c init evs
  rw [hfeed] at hstate hpayloads
  rw [hpayloads, hmap, List.forall₂_map_left_iff] at hout
  refine ⟨?_, congrArg Prod.snd hstate, congrArg Prod.fst hstate⟩
  refine ((List.forall₂_and_left msgs _).2 ⟨hmsgs, hout⟩).imp ?_
  rintro msg msg' ⟨hmsg, hof⟩
  rw [received_of_messageOf L msg hmsg msg' hof]
  exact sameMessage_received L msg hmsg

/-- Two messages of one client in two pieces, cut inside the first length, while another
client sends half a length and leaves. -/
theorem processData_delivers_two :
    let msgs : List Message := [⟨0, 0, 2, 1700000000000, utf8 "/DLL", utf8 "Größe", [1, 2, 3]⟩,
      ⟨1, 0, 0, 0, [], [], []⟩]
    let stream := msgs.flatMap (send .rfc8949 true true)
    let prior : Nat → Uninit := fun i => ⟨7, 7, 7, Int64.ofNat i⟩
    let evs : List (Event Bool) := [.readyRead true [stream.take 3] prior,
      .readyRead false [[9, 0]] prior, .disconnected false, .readyRead true [stream.drop 3] prior]
    List.Forall₂ SameMessage msgs (dispatchedTo true (run .rfc8949 init evs).2) ∧
      (run .rfc8949 init evs).1.buffers true = [] ∧ (run .rfc8949 init evs).1.sizes true = 0 := by
  intro msgs stream prior evs
  refine processData_delivers .rfc8949 true msgs ?_ evs ?_ (by simp [evs])
  · intro msg hmsg
    rcases List.mem_pair.1 hmsg with rfl | rfl
    · exact ⟨by decide, ⟨validUtf8_utf8 _, by decide⟩, ⟨validUtf8_utf8 _, by decide⟩,
        ⟨_, rfl, by decide, by decide⟩⟩
    · exact ⟨by decide, ⟨validUtf8_utf8 "", by decide⟩, ⟨validUtf8_utf8 "", by decide⟩,
        ⟨_, rfl, by decide, by decide⟩⟩
  · show stream.take 3 ++ (stream.drop 3 ++ []) = stream
    rw [List.append_nil, List.take_append_drop]

end J2534Oip.ExPipeServer
