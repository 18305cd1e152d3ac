import J2534Oip.Lib.Posted
import J2534Oip.Lib.Run
import J2534Oip.Pipe.Dispatch
import J2534Oip.Pipe.Protocol
import J2534Oip.Viewer.Export

/-!
# The viewer application

One event loop serves everything: a socket that is readable makes `processData` post each
message, a posted message goes through the preprocessor to the viewer its `type` names, and
that viewer posts the insertion into its table.  All of it waits in one queue
(`QTimer::singleShot(0, …)`), in order, between sockets that go on being readable and log
files that are loaded.
-/

namespace J2534Oip

open QCborValue QCborMap ExMessagePreProcessor

/-! ## The viewer of the emulator -/

structure ExJ2534Emulator where
  objs : List TimestampedObject
  /-- insertions that wait in `QTimer::singleShot` -/
  queued : List TimestampedObject
  readMsgs : List PassthruMsg
  writeMsgs : List TimestampedObject

namespace ExJ2534Emulator

def addElement (v : ExJ2534Emulator) (obj : TimestampedObject) : ExJ2534Emulator :=
  { v with objs := obj :: v.objs }

/-- The event loop runs the insertions that wait. -/
def runQueued (v : ExJ2534Emulator) : ExJ2534Emulator :=
  v.queued.foldl addElement { v with queued := [] }

/-- A missing time is set in seconds here, in milliseconds in the other two viewers. -/
def processPipeMessage (L : CborLink) (now : Int64) (v : ExJ2534Emulator) (msg : PipeMessage) :
    ExJ2534Emulator :=
  let msg := msg.stamp (now / 1000)
  let obj : TimestampedObject := { timestamp := msg.timestamp, msg := msg }
  let v := { v with queued := v.queued ++ [obj] }
  if msg.dataType = 2 then
    let cbor := toMap (L.fromCbor msg.data)
    let funcName := toInteger (-1) (value (intKey (PipeMessage.key .funcName)) cbor)
    if funcName = PipeMessage.func .passThruReadMsgs then
      { v with readMsgs := ExJ2534ReadMsgsList.processPipeMessage L v.readMsgs msg }
    else if funcName = PipeMessage.func .passThruWriteMsgs then
      { v with writeMsgs := ExJ2534WriteMsgsList.processPipeMessage now v.writeMsgs msg }
    else v
  else v

end ExJ2534Emulator

/-! ## The three viewers -/

structure Viewers where
  wrapper : ExJ2534Wrapper
  emulator : ExJ2534Emulator
  cannelloni : ExJ2534Cannelloni

/-- A message given to a viewer's `processPipeMessage`, at a time. -/
structure Given where
  viewer : Viewer
  now : Int64
  msg : PipeMessage

namespace Viewers

/-- Every insertion that a viewer queued is posted. -/
structure Idle (vs : Viewers) : Prop where
  wrapper : vs.wrapper.queued = []
  emulator : vs.emulator.queued = []
  cannelloni : vs.cannelloni.queued = []

/-- Three empty viewers. -/
def init : Viewers where
  wrapper := .init
  emulator := { objs := [], queued := [], readMsgs := [], writeMsgs := [] }
  cannelloni := { objs := [], queued := [], readMsgs := [], writeMsgs := [] }

/-- `processPipeMessage` of the viewer; the insertions that it queues are posted. -/
def processPipeMessage (L : CborLink) (vs : Viewers) (g : Given) :
    Viewers × List (Viewer × TimestampedObject) :=
  match g.viewer with
  | .wrapper =>
    let v := ExJ2534Wrapper.processPipeMessage L g.now vs.wrapper g.msg
    ({ vs with wrapper := { v with queued := [] } }, v.queued.map (Prod.mk .wrapper))
  | .emulator =>
    let v := ExJ2534Emulator.processPipeMessage L g.now vs.emulator g.msg
    ({ vs with emulator := { v with queued := [] } }, v.queued.map (Prod.mk .emulator))
  | .cannelloni =>
    let v := ExJ2534Cannelloni.processPipeMessage L g.now vs.cannelloni g.msg
    ({ vs with cannelloni := { v with queued := [] } }, v.queued.map (Prod.mk .cannelloni))

/-- A posted insertion is done. -/
def addElement (vs : Viewers) : Viewer × TimestampedObject → Viewers
  | (.wrapper, obj) => { vs with wrapper := vs.wrapper.addElement obj }
  | (.emulator, obj) => { vs with emulator := vs.emulator.addElement obj }
  | (.cannelloni, obj) => { vs with cannelloni := vs.cannelloni.addElement obj }

/-- Processing a message looks at no row, and leaves the rows alone. -/
theorem processPipeMessage_addElement (L : CborLink) (vs : Viewers) (g : Given)
    (b : Viewer × TimestampedObject) :
    (vs.addElement b).processPipeMessage L g =
      ((vs.processPipeMessage L g).1.addElement b, (vs.processPipeMessage L g).2) := by
  obtain ⟨viewer, obj⟩ := b
  obtain ⟨gv, now, msg⟩ := g
  cases gv <;> cases viewer <;> try rfl
  · simp only [addElement, processPipeMessage, ExJ2534Wrapper.processPipeMessage]
    split
    · split <;> rfl
    · rfl
  · simp only [addElement, processPipeMessage, ExJ2534Emulator.processPipeMessage]
    split
    · split
      · rfl
      · split <;> rfl
    · rfl
  · simp only [addElement, processPipeMessage, ExJ2534Cannelloni.processPipeMessage]
    split
    · split
      · rfl
      · split
        · rfl
        · split <;> rfl
    · rfl

/-- The viewers as a component that posts its insertions. -/
def poster (L : CborLink) : Poster Viewers Given (Viewer × TimestampedObject) where
  handle := processPipeMessage L
  run := addElement
  commutes vs g b := processPipeMessage_addElement L vs g b

end Viewers

/-! ## The event loop -/

/-- What `QTimer::singleShot(0, …)` posted.  A message is noted with its client, which
nothing reads. -/
inductive Posted (κ : Type*)
  | incommingMessageFromClient (c : κ) (msg : PipeMessage)
  | addElement (viewer : Viewer) (obj : TimestampedObject)

namespace Posted

variable {κ : Type*}

def message : Posted κ → Option (κ × PipeMessage)
  | incommingMessageFromClient c msg => some (c, msg)
  | addElement _ _ => none

def insertion : Posted κ → Option (Viewer × TimestampedObject)
  | incommingMessageFromClient _ _ => none
  | addElement viewer obj => some (viewer, obj)

end Posted

structure App (κ : Type*) where
  server : ExPipeServer κ
  posted : List (Posted κ)
  viewers : Viewers

namespace App

variable {κ : Type*} {L : CborLink} (J : JsonLink L)

def init : App κ := { server := .init, posted := [], viewers := .init }

inductive Act (κ : Type*)
  /-- a socket is readable, or gone -/
  | socket (ev : ExPipeServer.Event κ)
  /-- the oldest posted call is made -/
  | turn (now : Int64)
  | loadFromJSON (viewer : Viewer) (now : Nat → Int64) (doc : Json)

/-- `processPipeMessage` of a viewer is called. -/
def give (L : CborLink) (a : App κ) (g : Given) : App κ :=
  { a with
    viewers := (a.viewers.processPipeMessage L g).1
    posted := a.posted ++
      (a.viewers.processPipeMessage L g).2.map fun b => .addElement b.1 b.2 }

/-- The viewer of the emulator has no `loadFromJSON`. -/
def loadFromJSON (a : App κ) (now : Nat → Int64) (doc : Json) : Viewer → App κ
  | .wrapper =>
    let v := a.viewers.wrapper.loadFromJSON J now doc
    { a with
      viewers := { a.viewers with wrapper := { v with queued := [] } }
      posted := a.posted ++ v.queued.map (.addElement .wrapper) }
  | .emulator => a
  | .cannelloni =>
    let v := a.viewers.cannelloni.loadFromJSON J now doc
    { a with
      viewers := { a.viewers with cannelloni := { v with queued := [] } }
      posted := a.posted ++ v.queued.map (.addElement .cannelloni) }

def turn (L : CborLink) (a : App κ) (now : Int64) : App κ :=
  match a.posted with
  | [] => a
  | .incommingMessageFromClient _ msg :: posted =>
    match incommingMessageFromClient msg with
    | some viewer => give L { a with posted := posted } ⟨viewer, now, msg⟩
    | none => { a with posted := posted }
  | .addElement viewer obj :: posted =>
    { a with posted := posted, viewers := a.viewers.addElement (viewer, obj) }

section
variable [DecidableEq κ]

def step (a : App κ) : Act κ → App κ
  | .socket ev =>
    let r := ExPipeServer.step L a.server ev
    { a with
      server := r.1
      posted := a.posted ++ r.2.map fun p => .incommingMessageFromClient p.1 p.2 }
  | .turn now => turn L a now
  | .loadFromJSON viewer now doc => loadFromJSON J a now doc viewer

def run (acts : List (Act κ)) : App κ := acts.foldl (step J) init

end

/-! ## Loading a file is giving its messages -/

/-- The messages of a document, for a viewer. -/
def givenBy (viewer : Viewer) (now : Nat → Int64) (arr : List Json) : List Given :=
  arr.zipIdx.map fun it => ⟨viewer, now it.2, loadMessage J it.1⟩

theorem givenBy_cons (viewer : Viewer) (now : Nat → Int64) (it : Json) (arr : List Json) :
    givenBy J viewer now (it :: arr) =
      ⟨viewer, now 0, loadMessage J it⟩ :: givenBy J viewer (fun i => now (i + 1)) arr := by
  unfold givenBy
  rw [List.zipIdx_cons', List.map_cons, List.map_map]
  rfl

/-- What a viewer keeps while its insertions are posted. -/
theorem wrapper_queued (now : Int64) (v : ExJ2534Wrapper) (msg : PipeMessage) :
    let v' := ExJ2534Wrapper.processPipeMessage L now { v with queued := [] } msg
    ExJ2534Wrapper.processPipeMessage L now v msg = { v' with queued := v.queued ++ v'.queued } := by
  simp only [ExJ2534Wrapper.processPipeMessage]
  split
  · split <;> rfl
  · rfl

theorem cannelloni_queued (now : Int64) (v : ExJ2534Cannelloni) (msg : PipeMessage) :
    let v' := ExJ2534Cannelloni.processPipeMessage L now { v with queued := [] } msg
    ExJ2534Cannelloni.processPipeMessage L now v msg =
      { v' with queued := v.queued ++ v'.queued } := by
  simp only [ExJ2534Cannelloni.processPipeMessage]
  split_ifs <;> simp

theorem give_wrapper (now : Int64) (a : App κ) (v : ExJ2534Wrapper) (msg : PipeMessage) :
    let v' := ExJ2534Wrapper.processPipeMessage L now v msg
    give L
        { a with
          viewers := { a.viewers with wrapper := { v with queued := [] } }
          posted := a.posted ++ v.queued.map (.addElement .wrapper) } ⟨.wrapper, now, msg⟩ =
      { a with
        viewers := { a.viewers with wrapper := { v' with queued := [] } }
        posted := a.posted ++ v'.queued.map (.addElement .wrapper) } := by
  have hqueued := wrapper_queued (L := L) now v msg
  simp only at hqueued ⊢
  rw [hqueued, List.map_append, ← List.append_assoc]
  simp [give, Viewers.processPipeMessage]

theorem foldl_give_wrapper (arr : List Json) (now : Nat → Int64) (a : App κ) (v : ExJ2534Wrapper) :
    let v' := loadArray (ExJ2534Wrapper.processPipeMessage L) J now v arr
    (givenBy J .wrapper now arr).foldl (give L)
        { a with
          viewers := { a.viewers with wrapper := { v with queued := [] } }
          posted := a.posted ++ v.queued.map (.addElement .wrapper) } =
      { a with
        viewers := { a.viewers with wrapper := { v' with queued := [] } }
        posted := a.posted ++ v'.queued.map (.addElement .wrapper) } := by
  induction arr generalizing now v with
  | nil => rfl
  | cons it arr ih =>
    have hgive := give_wrapper (L := L) (now 0) a v (loadMessage J it)
    have ih := ih (fun i => now (i + 1))
      (ExJ2534Wrapper.processPipeMessage L (now 0) v (loadMessage J it))
    rw [givenBy_cons, List.foldl_cons, hgive]
    exact ih

theorem give_cannelloni (now : Int64) (a : App κ) (v : ExJ2534Cannelloni) (msg : PipeMessage) :
    let v' := ExJ2534Cannelloni.processPipeMessage L now v msg
    give L
        { a with
          viewers := { a.viewers with cannelloni := { v with queued := [] } }
          posted := a.posted ++ v.queued.map (.addElement .cannelloni) } ⟨.cannelloni, now, msg⟩ =
      { a with
        viewers := { a.viewers with cannelloni := { v' with queued := [] } }
        posted := a.posted ++ v'.queued.map (.addElement .cannelloni) } := by
  have hqueued := cannelloni_queued (L := L) now v msg
  simp only at hqueued ⊢
  rw [hqueued, List.map_append, ← List.append_assoc]
  simp [give, Viewers.processPipeMessage]

theorem foldl_give_cannelloni (arr : List Json) (now : Nat → Int64) (a : App κ)
    (v : ExJ2534Cannelloni) :
    let v' := loadArray (ExJ2534Cannelloni.processPipeMessage L) J now v arr
    (givenBy J .cannelloni now arr).foldl (give L)
        { a with
          viewers := { a.viewers with cannelloni := { v with queued := [] } }
          posted := a.posted ++ v.queued.map (.addElement .cannelloni) } =
      { a with
        viewers := { a.viewers with cannelloni := { v' with queued := [] } }
        posted := a.posted ++ v'.queued.map (.addElement .cannelloni) } := by
  induction arr generalizing now v with
  | nil => rfl
  | cons it arr ih =>
    have hgive := give_cannelloni (L := L) (now 0) a v (loadMessage J it)
    have ih := ih (fun i => now (i + 1))
      (ExJ2534Cannelloni.processPipeMessage L (now 0) v (loadMessage J it))
    rw [givenBy_cons, List.foldl_cons, hgive]
    exact ih

/-- The messages of an act that loads a file. -/
def Act.given : Act κ → List Given
  | .loadFromJSON .emulator _ _ => []
  | .loadFromJSON viewer now doc => givenBy J viewer now doc.toArray
  | _ => []

theorem loadFromJSON_eq_foldl (a : App κ) (h : a.viewers.Idle) (viewer : Viewer)
    (now : Nat → Int64) (doc : Json) : loadFromJSON J a now doc viewer =
      ((Act.loadFromJSON viewer now doc : Act κ).given J).foldl (give L) a := by
  cases viewer with
  | emulator => rfl
  | wrapper =>
    have hfold := foldl_give_wrapper J doc.toArray now a a.viewers.wrapper
    have hself : { a.viewers.wrapper with queued := [] } = a.viewers.wrapper := by rw [← h.wrapper]
    simp only [hself, h.wrapper, List.map_nil, List.append_nil] at hfold
    exact hfold.symm
  | cannelloni =>
    have hfold := foldl_give_cannelloni J doc.toArray now a a.viewers.cannelloni
    have hself : { a.viewers.cannelloni with queued := [] } = a.viewers.cannelloni := by
      rw [← h.cannelloni]
    simp only [hself, h.cannelloni, List.map_nil, List.append_nil] at hfold
    exact hfold.symm

/-! ## The account of a run -/

/-- A message that came to the viewers, from the pipe or from a file. -/
inductive Arrival (κ : Type*)
  | fromClient (c : κ) (now : Int64) (msg : PipeMessage)
  | fromFile (g : Given)

namespace Arrival

def message : Arrival κ → Option (κ × PipeMessage)
  | fromClient c _ msg => some (c, msg)
  | fromFile _ => none

def file : Arrival κ → Option Given
  | fromClient _ _ _ => none
  | fromFile g => some g

/-- The viewer is the one the type names, or the one that loads the file. -/
def given : Arrival κ → Option Given
  | fromClient _ now msg =>
    (incommingMessageFromClient msg).map fun viewer => { viewer := viewer, now := now, msg := msg }
  | fromFile g => some g

end Arrival

/-- What the sockets did. -/
def sockets (acts : List (Act κ)) : List (ExPipeServer.Event κ) :=
  acts.filterMap fun
    | .socket ev => some ev
    | _ => none

/-- What waits, and the viewers with every waiting insertion done. -/
def waiting (a : App κ) : List (κ × PipeMessage) := a.posted.filterMap Posted.message

def settled (L : CborLink) (a : App κ) : Viewers :=
  (Viewers.poster L).finish (a.viewers, a.posted.filterMap Posted.insertion)

/-- What the viewers show of the messages given to them, each dealt with at once. -/
def shown (L : CborLink) (gs : List Given) : Viewers := gs.foldl (Viewers.poster L).direct .init

theorem shown_append (gs gs' : List Given) :
    shown L (gs ++ gs') = gs'.foldl (Viewers.poster L).direct (shown L gs) := by
  unfold shown
  exact List.foldl_append

/-- The server is that of the sockets' events; what it handed on has arrived or waits, in
its order; files have arrived; and with what waits done, the viewers show what arrived. -/
structure Account [DecidableEq κ] (acts : List (Act κ)) (a : App κ) (arrived : List (Arrival κ)) :
    Prop where
  idle : a.viewers.Idle
  server : a.server = (ExPipeServer.run L .init (sockets acts)).1
  messages : arrived.filterMap Arrival.message ++ a.waiting =
    (ExPipeServer.run L .init (sockets acts)).2
  files : arrived.filterMap Arrival.file = acts.flatMap (Act.given J)
  viewers : a.settled L = shown L (arrived.filterMap Arrival.given)

/-! ## Steps keep the account -/

theorem idle_processPipeMessage (vs : Viewers) (h : vs.Idle) (g : Given) :
    (vs.processPipeMessage L g).1.Idle := by
  obtain ⟨viewer, now, msg⟩ := g
  cases viewer with
  | wrapper => exact ⟨rfl, h.emulator, h.cannelloni⟩
  | emulator => exact ⟨h.wrapper, rfl, h.cannelloni⟩
  | cannelloni => exact ⟨h.wrapper, h.emulator, rfl⟩

theorem idle_addElement (vs : Viewers) (h : vs.Idle) (b : Viewer × TimestampedObject) :
    (vs.addElement b).Idle := by
  obtain ⟨viewer, obj⟩ := b
  cases viewer <;> exact ⟨h.wrapper, h.emulator, h.cannelloni⟩

/-- A message given is seen at once, and its insertions are no messages. -/
theorem settled_give (a : App κ) (g : Given) :
    (give L a g).settled L = (Viewers.poster L).direct (a.settled L) g ∧
      (give L a g).waiting = a.waiting := by
  have hposted : ∀ bs : List (Viewer × TimestampedObject),
      (bs.map fun b => Posted.addElement (κ := κ) b.1 b.2).filterMap Posted.insertion = bs ∧
        (bs.map fun b => Posted.addElement (κ := κ) b.1 b.2).filterMap Posted.message = [] := by
    intro bs
    simp [List.filterMap_map, Function.comp_def, Posted.insertion, Posted.message]
  constructor
  · rw [settled, settled, ← (Viewers.poster L).finish_arrive]
    simp only [give, List.filterMap_append, hposted, Poster.arrive, Viewers.poster]
  · simp only [waiting, give, List.filterMap_append, hposted, List.append_nil]

theorem foldl_give (gs : List Given) (a : App κ) (h : a.viewers.Idle) :
    (gs.foldl (give L) a).viewers.Idle ∧ (gs.foldl (give L) a).server = a.server ∧
      (gs.foldl (give L) a).waiting = a.waiting ∧
      (gs.foldl (give L) a).settled L = gs.foldl (Viewers.poster L).direct (a.settled L) := by
  induction gs generalizing a with
  | nil => exact ⟨h, rfl, rfl, rfl⟩
  | cons g gs ih =>
    obtain ⟨hsettled, hwaiting⟩ := settled_give (L := L) a g
    obtain ⟨ihidle, ihserver, ihwaiting, ihsettled⟩ :=
      ih (give L a g) (idle_processPipeMessage a.viewers h g)
    refine ⟨ihidle, ihserver, ihwaiting.trans hwaiting, ?_⟩
    rw [List.foldl_cons, List.foldl_cons, ihsettled, hsettled]

section
variable [DecidableEq κ]

theorem run_snoc (s : ExPipeServer κ) (evs : List (ExPipeServer.Event κ))
    (ev : ExPipeServer.Event κ) : ExPipeServer.run L s (evs ++ [ev]) =
      ((ExPipeServer.step L (ExPipeServer.run L s evs).1 ev).1,
        (ExPipeServer.run L s evs).2 ++ (ExPipeServer.step L (ExPipeServer.run L s evs).1 ev).2) := by
  induction evs generalizing s with
  | nil => simp [ExPipeServer.run]
  | cons ev' evs ih => simp only [List.cons_append, ExPipeServer.run, ih, List.append_assoc]

theorem account_socket (acts : List (Act κ)) (a : App κ) (arrived : List (Arrival κ))
    (h : Account J acts a arrived) (ev : ExPipeServer.Event κ) :
    Account J (acts ++ [.socket ev]) (step J a (.socket ev)) arrived := by
  have hsockets : sockets (acts ++ [.socket ev]) = sockets acts ++ [ev] := by simp [sockets]
  have hposted : ∀ out : List (κ × PipeMessage),
      (out.map fun p => Posted.incommingMessageFromClient p.1 p.2).filterMap Posted.message = out ∧
        (out.map fun p => Posted.incommingMessageFromClient p.1 p.2).filterMap Posted.insertion =
          [] := by
    intro out
    simp [List.filterMap_map, Function.comp_def, Posted.insertion, Posted.message]
  refine ⟨h.idle, ?_, ?_, ?_, ?_⟩
  · rw [hsockets, run_snoc, ← h.server]
    rfl
  · rw [hsockets, run_snoc, ← h.messages, ← h.server, List.append_assoc]
    simp only [waiting, step, List.filterMap_append, hposted]
  · simpa [Act.given] using h.files
  · rw [← h.viewers]
    simp only [settled, step, List.filterMap_append, hposted, List.append_nil]

theorem account_load (acts : List (Act κ)) (a : App κ) (arrived : List (Arrival κ))
    (h : Account J acts a arrived) (viewer : Viewer) (now : Nat → Int64) (doc : Json) :
    let gs := (Act.loadFromJSON viewer now doc : Act κ).given J
    Account J (acts ++ [.loadFromJSON viewer now doc]) (step J a (.loadFromJSON viewer now doc))
      (arrived ++ gs.map .fromFile) := by
  intro gs
  have hsockets : sockets (acts ++ [.loadFromJSON viewer now doc]) = sockets acts := by
    simp [sockets]
  have hfiles : ∀ gs : List Given,
      (gs.map (Arrival.fromFile (κ := κ))).filterMap Arrival.message = [] ∧
      (gs.map (Arrival.fromFile (κ := κ))).filterMap Arrival.file = gs ∧
      (gs.map (Arrival.fromFile (κ := κ))).filterMap Arrival.given = gs := by
    intro gs
    simp [List.filterMap_map, Function.comp_def, Arrival.message, Arrival.file, Arrival.given]
  obtain ⟨hidle, hserver, hwaiting, hsettled⟩ := foldl_give (L := L) gs a h.idle
  have hstep : step J a (.loadFromJSON viewer now doc) = gs.foldl (give L) a :=
    loadFromJSON_eq_foldl J a h.idle viewer now doc
  rw [hstep]
  refine ⟨hidle, ?_, ?_, ?_, ?_⟩
  · rw [hserver, hsockets, h.server]
  · rw [List.filterMap_append, (hfiles gs).1, List.append_nil, hwaiting, hsockets, h.messages]
  · rw [List.filterMap_append, (hfiles gs).2.1, h.files, List.flatMap_append]
    simp [gs]
  · rw [List.filterMap_append, (hfiles gs).2.2, shown_append, hsettled, h.viewers]

/-- The oldest posted call is a message: it arrives. -/
theorem account_turn (acts : List (Act κ)) (a : App κ) (arrived : List (Arrival κ))
    (h : Account J acts a arrived) (now : Int64) :
    ∃ arrived', Account J (acts ++ [.turn now]) (step J a (.turn now)) arrived' := by
  have hsockets : sockets (acts ++ [.turn now]) = sockets acts := by simp [sockets]
  have hfiles : (acts ++ [Act.turn now]).flatMap (Act.given J) = acts.flatMap (Act.given J) := by
    simp [Act.given]
  obtain ⟨server, posted, viewers⟩ := a
  have hserver := h.server
  have hmessages := h.messages
  have hviewers := h.viewers
  cases posted with
  | nil =>
    refine ⟨arrived, h.idle, ?_, ?_, ?_, hviewers⟩
    · rw [hsockets]
      exact hserver
    · rw [hsockets]
      exact hmessages
    · rw [hfiles]
      exact h.files
  | cons call posted =>
    cases call with
    | addElement viewer obj =>
      refine ⟨arrived, idle_addElement viewers h.idle (viewer, obj), ?_, ?_, ?_, hviewers⟩
      · rw [hsockets]
        exact hserver
      · rw [hsockets]
        exact hmessages
      · rw [hfiles]
        exact h.files
    | incommingMessageFromClient c msg =>
      have hcons : (arrived ++ [Arrival.fromClient c now msg]).filterMap Arrival.message ++
          posted.filterMap Posted.message = (ExPipeServer.run L .init (sockets acts)).2 := by
        rw [← hmessages]
        simp [waiting, Arrival.message, Posted.message]
      have hfile : (arrived ++ [Arrival.fromClient c now msg]).filterMap Arrival.file =
          arrived.filterMap Arrival.file := by
        simp [Arrival.file]
      cases hviewer : incommingMessageFromClient msg with
      | none =>
        -- no viewer has the type
        have hstep : step J ⟨server, .incommingMessageFromClient c msg :: posted, viewers⟩
            (.turn now) = ⟨server, posted, viewers⟩ := by
          simp only [step, turn, hviewer]
        rw [hstep]
        refine ⟨arrived ++ [.fromClient c now msg], h.idle, ?_, ?_, ?_, ?_⟩
        · rw [hsockets]
          exact hserver
        · rw [hsockets]
          exact hcons
        · rw [hfiles, hfile, h.files]
        · rw [List.filterMap_append]
          simp only [List.filterMap_cons, List.filterMap_nil, Arrival.given, hviewer,
            Option.map_none, List.append_nil]
          exact hviewers
      | some viewer =>
        have hstep : step J ⟨server, .incommingMessageFromClient c msg :: posted, viewers⟩
            (.turn now) = give L ⟨server, posted, viewers⟩ ⟨viewer, now, msg⟩ := by
          simp only [step, turn, hviewer]
        obtain ⟨hsettled, hwaiting⟩ := settled_give (L := L) ⟨server, posted, viewers⟩
          ⟨viewer, now, msg⟩
        rw [hstep]
        refine ⟨arrived ++ [.fromClient c now msg],
          idle_processPipeMessage viewers h.idle ⟨viewer, now, msg⟩, ?_, ?_, ?_, ?_⟩
        · rw [hsockets]
          exact hserver
        · rw [hsockets, hwaiting]
          exact hcons
        · rw [hfiles, hfile, h.files]
        · rw [List.filterMap_append, hsettled]
          simp only [List.filterMap_cons, List.filterMap_nil, Arrival.given, hviewer,
            Option.map_some, shown_append]
          exact congrArg (fun vs => (Viewers.poster L).direct vs _) hviewers

/-- **Every run has an account.** -/
theorem account_run (acts : List (Act κ)) : ∃ arrived, Account J acts (run J acts) arrived := by
  induction acts using List.reverseRecOn with
  | nil => exact ⟨[], ⟨rfl, rfl, rfl⟩, rfl, rfl, rfl, rfl⟩
  | append_singleton acts act ih =>
    obtain ⟨arrived, haccount⟩ := ih
    have hrun : run J (acts ++ [act]) = step J (run J acts) act := by simp [run]
    rw [hrun]
    cases act with
    | socket ev => exact ⟨arrived, account_socket J acts _ arrived haccount ev⟩
    | turn now => exact account_turn J acts _ arrived haccount now
    | loadFromJSON viewer now doc =>
      exact ⟨_, account_load J acts _ arrived haccount viewer now doc⟩

/-! ## Turns lead to rest -/

omit [DecidableEq κ] in
theorem length_processPipeMessage (vs : Viewers) (h : vs.Idle) (g : Given) :
    (vs.processPipeMessage L g).2.length ≤ 1 := by
  obtain ⟨viewer, now, msg⟩ := g
  cases viewer with
  | wrapper =>
    obtain ⟨obj, -, hqueued, -⟩ := ExJ2534Wrapper.processPipeMessage_queued L now vs.wrapper msg
    simp only [Viewers.processPipeMessage, List.length_map, hqueued, h.wrapper]
    simp
  | emulator =>
    simp only [Viewers.processPipeMessage, List.length_map, ExJ2534Emulator.processPipeMessage]
    split_ifs <;> simp [h.emulator]
  | cannelloni =>
    simp only [Viewers.processPipeMessage, List.length_map, ExJ2534Cannelloni.processPipeMessage]
    split_ifs <;> simp [h.cannelloni]

/-- A message takes a turn, and one more for the insertion it may post. -/
def work : List (Posted κ) → Nat
  | [] => 0
  | .incommingMessageFromClient _ _ :: posted => 2 + work posted
  | .addElement _ _ :: posted => 1 + work posted

omit [DecidableEq κ] in
theorem work_append (posted posted' : List (Posted κ)) :
    work (posted ++ posted') = work posted + work posted' := by
  induction posted with
  | nil => simp [work]
  | cons call posted ih => cases call <;> simp only [List.cons_append, work, ih] <;> omega

omit [DecidableEq κ] in
theorem work_le (posted : List (Posted κ)) : work posted ≤ 2 * posted.length := by
  induction posted with
  | nil => exact Nat.le_refl 0
  | cons call posted ih => cases call <;> simp only [work, List.length_cons] <;> omega

omit [DecidableEq κ] in
theorem work_insertions (bs : List (Viewer × TimestampedObject)) :
    work (bs.map fun b => Posted.addElement (κ := κ) b.1 b.2) = bs.length := by
  induction bs with
  | nil => rfl
  | cons b bs ih =>
    rw [List.map_cons, List.length_cons, work, ih]
    omega

omit [DecidableEq κ] in
/-- A turn leaves less to do. -/
theorem work_turn (a : App κ) (h : a.viewers.Idle) (now : Int64) :
    (turn L a now).viewers.Idle ∧ work (turn L a now).posted ≤ work a.posted - 1 := by
  obtain ⟨server, posted, viewers⟩ := a
  cases posted with
  | nil => exact ⟨h, Nat.le_refl _⟩
  | cons call posted =>
    cases call with
    | addElement viewer obj =>
      refine ⟨idle_addElement viewers h (viewer, obj), ?_⟩
      show work posted ≤ 1 + work posted - 1
      omega
    | incommingMessageFromClient c msg =>
      cases hviewer : incommingMessageFromClient msg with
      | none =>
        simp only [turn, hviewer, work]
        exact ⟨h, by omega⟩
      | some viewer =>
        have hlength := length_processPipeMessage (L := L) viewers h ⟨viewer, now, msg⟩
        simp only [turn, hviewer, give, work, work_append, work_insertions]
        exact ⟨idle_processPipeMessage viewers h ⟨viewer, now, msg⟩, by omega⟩

omit [DecidableEq κ] in
theorem posted_turns (nows : List Int64) (a : App κ) (h : a.viewers.Idle)
    (hwork : work a.posted ≤ nows.length) : (nows.foldl (turn L) a).posted = [] := by
  induction nows generalizing a with
  | nil =>
    show a.posted = []
    obtain ⟨server, posted, viewers⟩ := a
    cases posted with
    | nil => rfl
    | cons call posted => cases call <;> simp [work] at hwork
  | cons now nows ih =>
    obtain ⟨hidle, hlt⟩ := work_turn (L := L) a h now
    rw [List.length_cons] at hwork
    exact ih _ hidle (by omega)

/-- **The event loop keeps the account.**  Sockets, turns and files in any order: every message
the server handed on arrives once and in its order, and the tables lag behind it by the
insertions that wait.  Turns alone empty the queue, two for each call that waits. -/
theorem eventLoop_account (acts : List (Act κ)) :
    (∃ arrived, Account J acts (run J acts) arrived) ∧
      ∀ nows : List Int64, 2 * (run J acts).posted.length ≤ nows.length →
        (nows.foldl (turn L) (run J acts)).posted = [] := by
  have haccount := account_run J acts
  refine ⟨haccount, ?_⟩
  intro nows hnows
  obtain ⟨arrived, haccount⟩ := haccount
  have hwork := work_le (run J acts).posted
  exact posted_turns nows _ haccount.idle (by omega)

end

end App

end J2534Oip
