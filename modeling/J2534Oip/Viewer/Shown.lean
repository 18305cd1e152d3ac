import J2534Oip.Viewer.App

/-!
# What the viewers show

A viewer puts what it is given into a table with the newest row at the top, and hands read
and write records on to its two lists; the Cannelloni viewer keeps those out of the table.
`shows_shown` gives the three lists of each viewer for any messages in any order, and with
the account of a run (`Viewer/App.lean`) they are what the clients sent:

    (run J acts).posted = [] → ∃ arrived, (what each client sent, in order) ∧
      ∀ v, Shows L (run J acts).viewers v (those of arrived given to v)        (shows_atRest)
-/

namespace J2534Oip

open QCborValue QCborMap ExMessagePreProcessor ExPipeServer

variable {L : CborLink}

/-! ## One message -/

namespace Given

/-- The time a viewer gives a message that has none. -/
def clock (g : Given) : Int64 :=
  match g.viewer with
  | .emulator => g.now / 1000
  | _ => g.now

def stamped (g : Given) : PipeMessage := g.msg.stamp g.clock

/-- The function of a record. -/
def func (L : CborLink) (g : Given) : Option Int :=
  if g.msg.dataType = 2 then some (ExJ2534Wrapper.funcName L g.msg.data) else none

def isRead (L : CborLink) (g : Given) : Bool := g.func L == some 27

def isWrite (L : CborLink) (g : Given) : Bool := g.func L == some 36

/-- The row in the table. -/
def row (L : CborLink) (g : Given) : Option PipeMessage :=
  if g.viewer = .cannelloni ∧ (g.isRead L || g.isWrite L) then none else some g.stamped

/-- The messages a read record adds to the list of read messages. -/
def batch (L : CborLink) (g : Given) : List PassthruMsg :=
  if g.isRead L then ExJ2534ReadMsgsList.processPipeMessage L [] g.msg else []

/-- The entry in the list of write records. -/
def writeRecord (L : CborLink) (g : Given) : Option PipeMessage :=
  if g.isWrite L then some (g.stamped.stamp (g.now / 1000)) else none

end Given

/-! ## The lists of a viewer -/

namespace Viewers

def table (vs : Viewers) : Viewer → List TimestampedObject
  | .wrapper => vs.wrapper.objs
  | .emulator => vs.emulator.objs
  | .cannelloni => vs.cannelloni.objs

def readMsgs (vs : Viewers) : Viewer → List PassthruMsg
  | .wrapper => vs.wrapper.readMsgs
  | .emulator => vs.emulator.readMsgs
  | .cannelloni => vs.cannelloni.readMsgs

def writeMsgs (vs : Viewers) : Viewer → List TimestampedObject
  | .wrapper => vs.wrapper.writeMsgs
  | .emulator => vs.emulator.writeMsgs
  | .cannelloni => vs.cannelloni.writeMsgs

end Viewers

/-- The viewer shows the messages `gs`, given to it in this order. -/
structure Shows (L : CborLink) (vs : Viewers) (v : Viewer) (gs : List Given) : Prop where
  table : (vs.table v).map TimestampedObject.msg = (gs.filterMap (Given.row L)).reverse
  readMsgs : vs.readMsgs v = gs.flatMap (Given.batch L)
  writeMsgs : (vs.writeMsgs v).map TimestampedObject.msg = gs.filterMap (Given.writeRecord L)

/-- A batch is appended, whatever is there, and does not depend on the time. -/
theorem readMsgs_processPipeMessage (objs : List PassthruMsg) (msg msg' : PipeMessage)
    (h : msg'.data = msg.data) : ExJ2534ReadMsgsList.processPipeMessage L objs msg' =
      objs ++ ExJ2534ReadMsgsList.processPipeMessage L [] msg := by
  unfold ExJ2534ReadMsgsList.processPipeMessage
  rw [h]
  simp only [ExJ2534ReadMsgsList.addElement]
  split
  · rw [List.append_nil]
  · rw [List.foldl_append_eq_append, List.foldl_append_eq_append, List.nil_append]

/-! ## A message dealt with at once -/

section
variable (vs : Viewers) (now : Int64) (msg : PipeMessage)

theorem foldl_addElement_wrapper (bs : List TimestampedObject) (vs : Viewers) :
    (bs.map (Prod.mk .wrapper)).foldl Viewers.addElement vs =
      { vs with wrapper := bs.foldl ExJ2534Wrapper.addElement vs.wrapper } := by
  induction bs generalizing vs with
  | nil => rfl
  | cons b bs ih => exact ih (vs.addElement (.wrapper, b))

theorem foldl_addElement_emulator (bs : List TimestampedObject) (vs : Viewers) :
    (bs.map (Prod.mk .emulator)).foldl Viewers.addElement vs =
      { vs with emulator := bs.foldl ExJ2534Emulator.addElement vs.emulator } := by
  induction bs generalizing vs with
  | nil => rfl
  | cons b bs ih => exact ih (vs.addElement (.emulator, b))

theorem foldl_addElement_cannelloni (bs : List TimestampedObject) (vs : Viewers) :
    (bs.map (Prod.mk .cannelloni)).foldl Viewers.addElement vs =
      { vs with cannelloni := bs.foldl ExJ2534Cannelloni.addElement vs.cannelloni } := by
  induction bs generalizing vs with
  | nil => rfl
  | cons b bs ih => exact ih (vs.addElement (.cannelloni, b))

theorem direct_wrapper : (Viewers.poster L).direct vs ⟨.wrapper, now, msg⟩ =
    { vs with wrapper := (ExJ2534Wrapper.processPipeMessage L now vs.wrapper msg).runQueued } :=
  foldl_addElement_wrapper _ _

theorem direct_emulator : (Viewers.poster L).direct vs ⟨.emulator, now, msg⟩ =
    { vs with emulator := (ExJ2534Emulator.processPipeMessage L now vs.emulator msg).runQueued } :=
  foldl_addElement_emulator _ _

theorem direct_cannelloni : (Viewers.poster L).direct vs ⟨.cannelloni, now, msg⟩ =
    { vs with
      cannelloni := (ExJ2534Cannelloni.processPipeMessage L now vs.cannelloni msg).runQueued } :=
  foldl_addElement_cannelloni _ _

end

/-- A message given to one viewer changes no other one. -/
theorem shows_direct_other (vs : Viewers) (v : Viewer) (gs : List Given) (g : Given)
    (hne : g.viewer ≠ v) (h : Shows L vs v gs) : Shows L ((Viewers.poster L).direct vs g) v gs := by
  obtain ⟨gv, now, msg⟩ := g
  cases gv with
  | wrapper =>
    rw [direct_wrapper]
    cases v with
    | wrapper => exact absurd rfl hne
    | emulator | cannelloni => exact ⟨h.table, h.readMsgs, h.writeMsgs⟩
  | emulator =>
    rw [direct_emulator]
    cases v with
    | emulator => exact absurd rfl hne
    | wrapper | cannelloni => exact ⟨h.table, h.readMsgs, h.writeMsgs⟩
  | cannelloni =>
    rw [direct_cannelloni]
    cases v with
    | cannelloni => exact absurd rfl hne
    | wrapper | emulator => exact ⟨h.table, h.readMsgs, h.writeMsgs⟩

/-- What `processPipeMessage` of the message's viewer adds: rows that wait, messages read
and write records. -/
structure Adds (L : CborLink) (g : Given) (queued queued' : List TimestampedObject)
    (readMsgs readMsgs' : List PassthruMsg) (writeMsgs writeMsgs' : List TimestampedObject) :
    Prop where
  queued : ∃ objs, queued' = queued ++ objs ∧ objs.map TimestampedObject.msg = (g.row L).toList
  readMsgs : readMsgs' = readMsgs ++ g.batch L
  writeMsgs : writeMsgs'.map TimestampedObject.msg =
    writeMsgs.map TimestampedObject.msg ++ (g.writeRecord L).toList

section
variable (now : Int64) (msg : PipeMessage)

theorem switch_eq_readMsgs (f : Int) : ExJ2534Wrapper.switch f = .readMsgs ↔ f = 27 := by
  constructor
  · intro h
    unfold ExJ2534Wrapper.switch at h
    split_ifs at h with h0 h1 h27
    exact h27
  · rintro rfl
    rfl

theorem switch_eq_writeMsgs (f : Int) : ExJ2534Wrapper.switch f = .writeMsgs ↔ f = 36 := by
  constructor
  · intro h
    unfold ExJ2534Wrapper.switch at h
    split_ifs at h with h0 h1 h27 h36
    exact h36
  · rintro rfl
    rfl

theorem adds_wrapper (v : ExJ2534Wrapper) :
    let v' := ExJ2534Wrapper.processPipeMessage L now v msg
    v'.objs = v.objs ∧ Adds L ⟨.wrapper, now, msg⟩ v.queued v'.queued v.readMsgs v'.readMsgs
      v.writeMsgs v'.writeMsgs := by
  intro v'
  have hbatch := readMsgs_processPipeMessage (L := L) v.readMsgs msg (msg.stamp now)
    (PipeMessage.data_stamp _ _)
  have hread := switch_eq_readMsgs (ExJ2534Wrapper.funcName L msg.data)
  have hwrite := switch_eq_writeMsgs (ExJ2534Wrapper.funcName L msg.data)
  simp only [v', ExJ2534Wrapper.processPipeMessage, PipeMessage.dataType_stamp,
    PipeMessage.data_stamp]
  split_ifs with h2
  · cases hs : ExJ2534Wrapper.switch (ExJ2534Wrapper.funcName L msg.data)
    all_goals
      refine ⟨rfl, ⟨[_], rfl, rfl⟩, ?_, ?_⟩
      · simp_all [Given.batch, Given.isRead, Given.func, ExJ2534Wrapper.enqueue]
      · simp_all [Given.writeRecord, Given.isWrite, Given.func, Given.stamped, Given.clock,
          ExJ2534WriteMsgsList.processPipeMessage, ExJ2534Wrapper.enqueue]
  · refine ⟨rfl, ⟨[_], rfl, rfl⟩, ?_, ?_⟩
    · simp_all [Given.batch, Given.isRead, Given.func, ExJ2534Wrapper.enqueue]
    · simp_all [Given.writeRecord, Given.isWrite, Given.func, ExJ2534Wrapper.enqueue]

theorem adds_emulator (v : ExJ2534Emulator) :
    let v' := ExJ2534Emulator.processPipeMessage L now v msg
    v'.objs = v.objs ∧ Adds L ⟨.emulator, now, msg⟩ v.queued v'.queued v.readMsgs v'.readMsgs
      v.writeMsgs v'.writeMsgs := by
  intro v'
  have hbatch := readMsgs_processPipeMessage (L := L) v.readMsgs msg (msg.stamp (now / 1000))
    (PipeMessage.data_stamp _ _)
  simp only [v', ExJ2534Emulator.processPipeMessage, PipeMessage.dataType_stamp,
    PipeMessage.data_stamp, PipeMessage.func]
  split_ifs with h2 h27 h36
  all_goals
    refine ⟨rfl, ⟨[_], rfl, rfl⟩, ?_, ?_⟩
    · simp_all [Given.batch, Given.isRead, Given.func, ExJ2534Wrapper.funcName]
    · simp_all [Given.writeRecord, Given.isWrite, Given.func, ExJ2534Wrapper.funcName,
        Given.stamped, Given.clock, ExJ2534WriteMsgsList.processPipeMessage]

/-- A read or a write record of the Cannelloni client gets no row. -/
theorem adds_cannelloni (v : ExJ2534Cannelloni) :
    let v' := ExJ2534Cannelloni.processPipeMessage L now v msg
    v'.objs = v.objs ∧ Adds L ⟨.cannelloni, now, msg⟩ v.queued v'.queued v.readMsgs v'.readMsgs
      v.writeMsgs v'.writeMsgs := by
  intro v'
  have hbatch := readMsgs_processPipeMessage (L := L) v.readMsgs msg (msg.stamp now)
    (PipeMessage.data_stamp _ _)
  simp only [v', ExJ2534Cannelloni.processPipeMessage, PipeMessage.dataType_stamp,
    PipeMessage.data_stamp, PipeMessage.func]
  split_ifs with h2 h20 h27 h36
  all_goals
    first
    | refine ⟨rfl, ⟨[_], rfl, ?_⟩, ?_, ?_⟩
    | refine ⟨rfl, ⟨[], (List.append_nil _).symm, ?_⟩, ?_, ?_⟩
    · simp_all [Given.row, Given.isRead, Given.isWrite, Given.func, ExJ2534Wrapper.funcName,
        Given.stamped, Given.clock]
    · simp_all [Given.batch, Given.isRead, Given.func, ExJ2534Wrapper.funcName]
    · simp_all [Given.writeRecord, Given.isWrite, Given.func, ExJ2534Wrapper.funcName,
        Given.stamped, Given.clock, ExJ2534WriteMsgsList.processPipeMessage]

end

/-- The rows that waited are on top, the newest first. -/
theorem shows_of_adds {vs vs' : Viewers} {v : Viewer} {gs : List Given} {g : Given}
    {queued : List TimestampedObject} (h : Shows L vs v gs)
    (hadds : Adds L g [] queued (vs.readMsgs v) (vs'.readMsgs v) (vs.writeMsgs v) (vs'.writeMsgs v))
    (htable : vs'.table v = queued.reverse ++ vs.table v) : Shows L vs' v (gs ++ [g]) := by
  obtain ⟨objs, hqueued, hobjs⟩ := hadds.queued
  refine ⟨?_, ?_, ?_⟩
  · rw [htable, hqueued, List.nil_append, List.map_append, List.map_reverse, hobjs, h.table,
      List.filterMap_append, List.reverse_append]
    cases hrow : g.row L <;> simp [hrow]
  · rw [hadds.readMsgs, h.readMsgs, List.flatMap_append, List.flatMap_singleton]
  · rw [hadds.writeMsgs, h.writeMsgs, List.filterMap_append]
    cases hwrite : g.writeRecord L <;> simp [hwrite]

theorem emulator_runQueued (v : ExJ2534Emulator) :
    v.runQueued = { v with objs := v.queued.reverse ++ v.objs, queued := [] } := by
  have hfold : ∀ (waiting : List TimestampedObject) (v : ExJ2534Emulator),
      waiting.foldl ExJ2534Emulator.addElement v = { v with objs := waiting.reverse ++ v.objs } := by
    intro waiting
    induction waiting with
    | nil => intro v; rfl
    | cons obj waiting ih =>
      intro v
      rw [List.foldl_cons, ih, List.reverse_cons, List.append_assoc]
      rfl
  rw [ExJ2534Emulator.runQueued, hfold]

theorem wrapper_runQueued (v : ExJ2534Wrapper) :
    v.runQueued = { v with objs := v.queued.reverse ++ v.objs, queued := [] } := by
  have hfold : ∀ (waiting : List TimestampedObject) (v : ExJ2534Wrapper),
      waiting.foldl ExJ2534Wrapper.addElement v = { v with objs := waiting.reverse ++ v.objs } := by
    intro waiting
    induction waiting with
    | nil => intro v; rfl
    | cons obj waiting ih =>
      intro v
      rw [List.foldl_cons, ih, List.reverse_cons, List.append_assoc]
      rfl
  rw [ExJ2534Wrapper.runQueued, hfold]

/-- The message's own viewer. -/
theorem shows_direct_self (vs : Viewers) (h : vs.Idle) (gs : List Given) (g : Given)
    (hshows : Shows L vs g.viewer gs) :
    Shows L ((Viewers.poster L).direct vs g) g.viewer (gs ++ [g]) := by
  obtain ⟨gv, now, msg⟩ := g
  cases gv with
  | wrapper =>
    obtain ⟨hobjs, hadds⟩ := adds_wrapper (L := L) now msg vs.wrapper
    rw [direct_wrapper, wrapper_runQueued]
    rw [h.wrapper] at hadds
    exact shows_of_adds hshows hadds (congrArg _ hobjs)
  | emulator =>
    obtain ⟨hobjs, hadds⟩ := adds_emulator (L := L) now msg vs.emulator
    rw [direct_emulator, emulator_runQueued]
    rw [h.emulator] at hadds
    exact shows_of_adds hshows hadds (congrArg _ hobjs)
  | cannelloni =>
    obtain ⟨hobjs, hadds⟩ := adds_cannelloni (L := L) now msg vs.cannelloni
    rw [direct_cannelloni, ExJ2534Cannelloni.runQueued_eq]
    rw [h.cannelloni] at hadds
    exact shows_of_adds hshows hadds (congrArg _ hobjs)

theorem idle_direct (vs : Viewers) (h : vs.Idle) (g : Given) :
    ((Viewers.poster L).direct vs g).Idle := by
  obtain ⟨gv, now, msg⟩ := g
  cases gv with
  | wrapper =>
    rw [direct_wrapper, wrapper_runQueued]
    exact ⟨rfl, h.emulator, h.cannelloni⟩
  | emulator =>
    rw [direct_emulator, emulator_runQueued]
    exact ⟨h.wrapper, rfl, h.cannelloni⟩
  | cannelloni =>
    rw [direct_cannelloni, ExJ2534Cannelloni.runQueued_eq]
    exact ⟨h.wrapper, h.emulator, rfl⟩

/-! ## Any messages -/

/-- The messages given to a viewer. -/
def givenTo (v : Viewer) (gs : List Given) : List Given := gs.filter fun g => g.viewer == v

/-- **What the viewers show**, of any messages given to them. -/
theorem shows_shown (gs : List Given) (v : Viewer) :
    (App.shown L gs).Idle ∧ Shows L (App.shown L gs) v (givenTo v gs) := by
  induction gs using List.reverseRecOn with
  | nil => exact ⟨⟨rfl, rfl, rfl⟩, by cases v <;> exact ⟨rfl, rfl, rfl⟩⟩
  | append_singleton gs g ih =>
    obtain ⟨hidle, hshows⟩ := ih
    rw [App.shown_append]
    refine ⟨idle_direct _ hidle g, ?_⟩
    by_cases hv : g.viewer = v
    · subst hv
      have hfilter : givenTo g.viewer (gs ++ [g]) = givenTo g.viewer gs ++ [g] := by
        simp [givenTo]
      rw [hfilter]
      exact shows_direct_self _ hidle _ g hshows
    · have hfilter : givenTo v (gs ++ [g]) = givenTo v gs := by
        simp [givenTo, hv]
      rw [hfilter]
      exact shows_direct_other _ v _ g hv hshows

/-! ## What a client sent -/

section
variable {κ : Type*} [DecidableEq κ]

/-- What the server hands on for a client that sent whole messages and is connected. -/
theorem dispatchedTo_run (c : κ) (msgs : List ExPipeClient.Message)
    (hmsgs : ∀ msg ∈ msgs, ExPipeClient.Sendable L msg) (evs : List (Event κ))
    (hbytes : (clientReads c evs).flatten = msgs.flatMap (ExPipeClient.send L true true))
    (hc : Event.disconnected c ∉ evs) :
    dispatchedTo c (ExPipeServer.run L .init evs).2 = msgs.map received := by
  have hfeed : frameReader.feed ((.init : ExPipeServer κ).client c) (clientReads c evs) =
      ((0, []), msgs.map (bodyOf L)) := by
    have hclient : (.init : ExPipeServer κ).client c = (0, []) := rfl
    rw [hclient, frameReader.feed_eq_drain _ _ idle_init, hbytes]
    exact drain_sent L msgs hmsgs
  have hmap : payloads L (msgs.map (bodyOf L)) = msgs.map (bodyOf L) := by
    rw [payloads, List.filter_eq_self]
    intro body hbody
    obtain ⟨msg, hmsg, rfl⟩ := List.mem_map.1 hbody
    have hw := encoderWrite_sendable L msg (hmsgs msg hmsg)
    rw [isMap_eq_isSome_decode, decode, messageOfFrame_sent L msg (hmsgs msg hmsg) _ hw]
    rfl
  have hout := run_messages L c .init evs
  rw [(run_client L .init c evs hc).2, hfeed, hmap, List.forall₂_map_left_iff] at hout
  have hsame : List.Forall₂ (fun msg msg' => msg' = received msg) msgs
      (dispatchedTo c (ExPipeServer.run L .init evs).2) := by
    refine ((List.forall₂_and_left msgs _).2 ⟨hmsgs, hout⟩).imp ?_
    rintro msg msg' ⟨hmsg, hof⟩
    exact received_of_messageOf L msg hmsg msg' hof
  have heq : List.Forall₂ Eq (dispatchedTo c (ExPipeServer.run L .init evs).2)
      (msgs.map received) := by
    rw [List.forall₂_map_right_iff]
    exact hsame.flip
  exact List.forall₂_eq_eq_eq ▸ heq

/-- **What the viewers show at rest.**  For some order of arrival, in which each client's
messages come once and as it sent them, every viewer shows just what arrived for it: the table
from the newest down, the read and the write list from the oldest on. -/
theorem shows_atRest (J : JsonLink L) (acts : List (App.Act κ))
    (hrest : (App.run J acts).posted = []) :
    ∃ arrived : List (App.Arrival κ),
      (∀ (c : κ) (msgs : List ExPipeClient.Message),
        (∀ msg ∈ msgs, ExPipeClient.Sendable L msg) →
        (clientReads c (App.sockets acts)).flatten =
            msgs.flatMap (ExPipeClient.send L true true) →
        Event.disconnected c ∉ App.sockets acts →
        dispatchedTo c (arrived.filterMap App.Arrival.message) = msgs.map received) ∧
      arrived.filterMap App.Arrival.file = acts.flatMap (App.Act.given J) ∧
      ∀ v, Shows L (App.run J acts).viewers v
        (givenTo v (arrived.filterMap App.Arrival.given)) := by
  obtain ⟨arrived, haccount⟩ := App.account_run J acts
  have hwaiting : (App.run J acts).waiting = [] := by rw [App.waiting, hrest]; rfl
  have hsettled : (App.run J acts).settled L = (App.run J acts).viewers := by
    rw [App.settled, hrest]
    rfl
  refine ⟨arrived, ?_, haccount.files, ?_⟩
  · intro c msgs hmsgs hbytes hc
    have hmessages := haccount.messages
    rw [hwaiting, List.append_nil] at hmessages
    rw [hmessages]
    exact dispatchedTo_run c msgs hmsgs _ hbytes hc
  · intro v
    rw [← hsettled, haccount.viewers]
    exact (shows_shown _ v).2

/-- A text for the wrapper's viewer, in two pieces, while a socket of another client goes. -/
theorem shows_atRest_text :
    let msg : ExPipeClient.Message := ⟨0, 2, 0, 5, utf8 "/DLL", utf8 "text", []⟩
    let stream := ExPipeClient.send .rfc8949 true true msg
    let prior : Nat → Uninit := fun _ => ⟨7, 7, 7, 7⟩
    let acts : List (App.Act Bool) :=
      [.socket (.readyRead true [stream.take 3] prior), .socket (.disconnected false),
        .socket (.readyRead true [stream.drop 3] prior), .turn 9, .turn 9]
    ∃ arrived : List (App.Arrival Bool),
      dispatchedTo true (arrived.filterMap App.Arrival.message) = [received msg] ∧
      ∀ v, Shows .rfc8949 (App.run .documented acts).viewers v
        (givenTo v (arrived.filterMap App.Arrival.given)) := by
  intro msg stream prior acts
  have hrest : (App.run .documented acts).posted.isEmpty = true := by decide +kernel
  obtain ⟨arrived, hclients, -, hshows⟩ :=
    shows_atRest .documented acts (List.isEmpty_iff.1 hrest)
  refine ⟨arrived, hclients true [msg] ?_ ?_ (by simp [acts, App.sockets]), hshows⟩
  · intro m hm
    obtain rfl := List.mem_singleton.1 hm
    exact ⟨by decide, ⟨validUtf8_utf8 _, by decide⟩, ⟨validUtf8_utf8 _, by decide⟩,
      ⟨_, rfl, by decide, by decide⟩⟩
  · show stream.take 3 ++ (stream.drop 3 ++ []) = stream ++ []
    rw [List.append_nil, List.append_nil, List.take_append_drop]

end

end J2534Oip
