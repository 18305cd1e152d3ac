import J2534Oip.Viewer.Sessions

/-!
# A client's log in its viewer

Every client sends the same kind of message for a call: a text, and mostly a record.  At
rest the viewer that the client's type names has, for each of them in order, the row, the
batch of a read record and the entry of a write record, among those of other clients
(`log_shown`); without any others it has nothing else.  What a viewer makes of a record
depends on the tree alone, and the tree is the one that was sent.
-/

namespace J2534Oip

open QCborValue QCborMap CborUtils ExPipeClient ExMessagePreProcessor

variable {L : CborLink}

/-! ## What a client logs -/

/-- What a client gives to `send`: a text, and for a call mostly a record. -/
structure Logged where
  id : UInt32
  timestamp : Int64
  path : List UInt8
  text : List UInt8
  record : Option (List (Cbor × Cbor))

/-- The process a client runs in, as its messages name it. -/
structure Process where
  id : UInt32
  path : List UInt8

/-- The message of a call, with its record. -/
def Process.entry (p : Process) (now : Int64) (text : String) (record : List (Cbor × Cbor)) :
    Logged :=
  { id := p.id, timestamp := now, path := p.path, text := utf8 text, record := some record }

/-- The record that a constructor sends; `this` is the address of the object. -/
def constructorRecord (this : UInt32) : List (Cbor × Cbor) :=
  mapPutInt (mapPutInt [] (key .funcName) 0) (key .param1) this

theorem wellFormed_constructorRecord (this : UInt32) :
    WellFormed (.map (constructorRecord this)) := by
  have hint : ∀ n : Nat, n < 2 → WellFormedHere (.int n) := by
    intro n hn
    simp only [WellFormedHere]
    omega
  have hlength : 2 < 2 ^ 32 := by decide
  refine ⟨⟨hlength, hint 0 (by omega), hint 0 (by omega), hint 1 (by omega),
    wellFormedHere_uint32 this, trivial⟩, ?_⟩
  simp [constructorRecord, mapPutInt, Cbor.depth, Cbor.depthPairs]

/-- The type a client of each kind sends. -/
def clientType : Viewer → UInt32
  | .wrapper => 2
  | .emulator => 3
  | .cannelloni => 4

theorem incommingMessageFromClient_clientType (v : Viewer) (msg : PipeMessage) :
    incommingMessageFromClient msg = some v ↔ msg.type = clientType v := by
  unfold incommingMessageFromClient clientType
  cases v <;> split_ifs with h2 h3 h4 <;> simp_all

namespace Logged

/-- The message sent: data type 2 for a record, 0 for a text alone. -/
def message (L : CborLink) (v : Viewer) (e : Logged) : Message :=
  { id := e.id, type := clientType v, dataType := if e.record.isSome then 2 else 0,
    timestamp := e.timestamp, path := e.path, message := e.text,
    data := match e.record with
      | some map => cborToData L (.map map)
      | none => [] }

/-- What is written of the record restores it. -/
def Restored (L : CborLink) (e : Logged) : Prop :=
  ∀ map, e.record = some map → L.fromCbor (cborToData L (.map map)) = .map map

/-- A record that both libraries hold is restored. -/
theorem restored_of_wellFormed (e : Logged)
    (h : ∀ map, e.record = some map → WellFormed (.map map)) : e.Restored L := by
  intro map hmap
  obtain ⟨bs, hw, hr⟩ := L.restores _ (h map hmap)
  rw [cborToData, hw]
  exact hr

/-- `KEY_FuncName` of the record. -/
def func (e : Logged) : Option Int :=
  e.record.map fun map => toInteger (-1) (value (intKey (PipeMessage.key .funcName)) map)

def isRead (e : Logged) : Bool := e.func == some 27

def isWrite (e : Logged) : Bool := e.func == some 36

/-- The Cannelloni viewer keeps reads and writes out of its table. -/
def inTable (v : Viewer) (e : Logged) : Bool :=
  !(decide (v = .cannelloni) && (e.isRead || e.isWrite))

end Logged

/-- The messages of a batch, from the tree of its record. -/
def readRows (map : List (Cbor × Cbor)) : List PassthruMsg :=
  let param2 := value (intKey (PipeMessage.key .param2)) map
  if isInteger param2 then []
  else
    let msgsCount := toInteger 0 (value (intKey 0) (toMap param2))
    let msgs := toArray (value (intKey 1) (toMap param2))
    (List.range msgsCount.toNat).map fun i =>
      ExJ2534ReadMsgsList.messageOf (msgs.getD i undefined)

/-- The read messages an entry adds. -/
def Logged.rows (e : Logged) : List PassthruMsg :=
  match e.record with
  | some map => if e.isRead then readRows map else []
  | none => []

/-- A message as a viewer shows it: what was sent, with a time if it had none. -/
structure ShownAs (L : CborLink) (e : Logged) (row : PipeMessage) : Prop where
  id : row.id = e.id
  path : row.path = ofUtf8 e.path
  text : row.message = ofUtf8 e.text
  timestamp : e.timestamp ≠ 0 → row.timestamp = e.timestamp
  record : ∀ map, e.record = some map → L.fromCbor row.data = .map map

/-! ## One message -/

section
variable (v : Viewer) (e : Logged) (h : e.Restored L)
include h

theorem fromCbor_message (map : List (Cbor × Cbor)) (hmap : e.record = some map) :
    L.fromCbor (ExPipeServer.received (e.message L v)).data = .map map := by
  have hdata : (e.message L v).data = cborToData L (.map map) := by
    rw [Logged.message]
    simp only [hmap]
  show L.fromCbor (e.message L v).data = _
  rw [hdata]
  exact h map hmap

/-- The function a viewer reads is the one that was put. -/
theorem func_message (now : Int64) :
    (⟨v, now, ExPipeServer.received (e.message L v)⟩ : Given).func L = e.func := by
  cases hrec : e.record with
  | none =>
    have hfunc : e.func = none := by rw [Logged.func, hrec]; rfl
    have htype : (ExPipeServer.received (e.message L v)).dataType ≠ 2 := by
      show (if e.record.isSome then (2 : UInt32) else 0) ≠ 2
      rw [hrec]
      decide
    rw [hfunc, Given.func, if_neg htype]
  | some map =>
    have htype : (ExPipeServer.received (e.message L v)).dataType = 2 := by
      show (if e.record.isSome then (2 : UInt32) else 0) = 2
      rw [hrec]
      rfl
    rw [Given.func, if_pos htype, ExJ2534Wrapper.funcName, fromCbor_message v e h map hrec,
      Logged.func, hrec]
    rfl

theorem row_message (now : Int64) :
    (⟨v, now, ExPipeServer.received (e.message L v)⟩ : Given).row L =
      if e.inTable v then
        some (⟨v, now, ExPipeServer.received (e.message L v)⟩ : Given).stamped else none := by
  have hfunc := func_message (L := L) v e h now
  unfold Given.row Given.isRead Given.isWrite Logged.inTable Logged.isRead Logged.isWrite
  rw [hfunc]
  by_cases hv : v = .cannelloni
  · simp only [hv, true_and, decide_true, Bool.true_and]
    cases (e.func == some 27 || e.func == some 36) <;> rfl
  · simp [hv]

theorem batch_message (now : Int64) :
    (⟨v, now, ExPipeServer.received (e.message L v)⟩ : Given).batch L = e.rows := by
  have hfunc := func_message (L := L) v e h now
  unfold Given.batch Given.isRead Logged.rows Logged.isRead
  rw [hfunc]
  cases hrec : e.record with
  | none =>
    have hnone : e.func = none := by rw [Logged.func, hrec]; rfl
    rw [hnone]
    rfl
  | some map =>
    have htree := fromCbor_message (L := L) v e h map hrec
    simp only
    split
    · unfold ExJ2534ReadMsgsList.processPipeMessage readRows
      simp only [htree, toMap, ExJ2534ReadMsgsList.addElement]
      split
      · rfl
      · rw [List.foldl_append_eq_append, ← List.flatMap_def, ← List.map_eq_flatMap, List.nil_append]
    · rfl

/-- The message as it arrives. -/
theorem shownAs_received : ShownAs L e (ExPipeServer.received (e.message L v)) where
  id := rfl
  path := rfl
  text := rfl
  timestamp _ := rfl
  record map hmap := fromCbor_message v e h map hmap

theorem writeRecord_message (now : Int64) :
    (⟨v, now, ExPipeServer.received (e.message L v)⟩ : Given).writeRecord L =
      if e.isWrite then
        some ((⟨v, now, ExPipeServer.received (e.message L v)⟩ : Given).stamped.stamp (now / 1000))
      else none := by
  have hfunc := func_message (L := L) v e h now
  unfold Given.writeRecord Given.isWrite Logged.isWrite
  rw [hfunc]

end

/-- A stamp changes a time that is missing. -/
theorem ShownAs.stamp {e : Logged} {row : PipeMessage} (h : ShownAs L e row) (now : Int64) :
    ShownAs L e (row.stamp now) := by
  unfold PipeMessage.stamp
  split
  · next h0 =>
    refine ⟨h.id, h.path, h.text, fun hne => ?_, h.record⟩
    exact absurd ((h.timestamp hne).symm.trans h0) hne
  · exact h

/-! ## Messages given to a viewer -/

/-- `gs` are the entries of a log, given to viewer `v` in order. -/
def GivenLog (L : CborLink) (v : Viewer) (log : List Logged) (gs : List Given) : Prop :=
  List.Forall₂ (fun e g => g.viewer = v ∧ g.msg = ExPipeServer.received (e.message L v)) log gs

/-- The lists the messages add to, by what was logged. -/
theorem adds_log (v : Viewer) (log : List Logged) (hlog : ∀ e ∈ log, e.Restored L) (gs : List Given)
    (h : GivenLog L v log gs) :
    List.Forall₂ (ShownAs L) (log.filter (·.inTable v)) (gs.filterMap (Given.row L)) ∧
      gs.flatMap (Given.batch L) = log.flatMap Logged.rows ∧
      List.Forall₂ (ShownAs L) (log.filter Logged.isWrite) (gs.filterMap (Given.writeRecord L)) := by
  induction h with
  | nil => exact ⟨.nil, rfl, .nil⟩
  | @cons e g log gs hg _ ih =>
    obtain ⟨viewer, now, msg⟩ := g
    obtain rfl : viewer = v := hg.1
    obtain rfl : msg = ExPipeServer.received (e.message L viewer) := hg.2
    obtain ⟨he, hlog⟩ := List.forall_mem_cons.1 hlog
    obtain ⟨hrows, hbatch, hwrites⟩ := ih hlog
    have hshown := shownAs_received (L := L) viewer e he
    refine ⟨?_, ?_, ?_⟩
    · rw [List.filterMap_cons, row_message viewer e he now]
      cases htable : e.inTable viewer with
      | true =>
        rw [List.filter_cons_of_pos htable]
        exact .cons (hshown.stamp _) hrows
      | false =>
        rw [List.filter_cons_of_neg (by rw [htable]; exact Bool.false_ne_true)]
        exact hrows
    · rw [List.flatMap_cons, List.flatMap_cons, batch_message viewer e he now, hbatch]
    · rw [List.filterMap_cons, writeRecord_message viewer e he now]
      cases hwrite : e.isWrite with
      | true =>
        rw [List.filter_cons_of_pos hwrite]
        exact .cons ((hshown.stamp _).stamp _) hwrites
      | false =>
        rw [List.filter_cons_of_neg (by rw [hwrite]; exact Bool.false_ne_true)]
        exact hwrites

/-! ## Arrivals of one client -/

section
variable {κ : Type*} [DecidableEq κ]

/-- What arrived from client `c`, given to the viewers. -/
def givenFrom (c : κ) (arrived : List (App.Arrival κ)) : List Given :=
  (arrived.filter (isFrom c)).filterMap App.Arrival.given

theorem givenFrom_log (c : κ) (v : Viewer) (log : List Logged) (arrived : List (App.Arrival κ))
    (h : ExPipeServer.dispatchedTo c (arrived.filterMap App.Arrival.message) =
      (log.map (Logged.message L v)).map ExPipeServer.received) :
    GivenLog L v log (givenFrom c arrived) := by
  induction arrived generalizing log with
  | nil =>
    obtain rfl : log = [] := by simpa [ExPipeServer.dispatchedTo] using h.symm
    exact .nil
  | cons x arrived ih =>
    cases x with
    | fromFile g => exact ih log h
    | fromClient c' now msg =>
      by_cases hc : c' = c
      · subst hc
        cases log with
        | nil => simp [App.Arrival.message, ExPipeServer.dispatchedTo] at h
        | cons e log =>
          have hcons : msg :: ExPipeServer.dispatchedTo c'
              (arrived.filterMap App.Arrival.message) =
              ExPipeServer.received (e.message L v) ::
                (log.map (Logged.message L v)).map ExPipeServer.received := by
            simpa [App.Arrival.message, ExPipeServer.dispatchedTo] using h
          obtain ⟨rfl, hrest⟩ := List.cons.inj hcons
          have hviewer := (incommingMessageFromClient_clientType v
            (ExPipeServer.received (e.message L v))).2 rfl
          have hmine : isFrom c' (App.Arrival.fromClient c' now
            (ExPipeServer.received (e.message L v))) = true := by simp [isFrom]
          rw [givenFrom, List.filter_cons_of_pos hmine, List.filterMap_cons]
          simp only [App.Arrival.given, hviewer, Option.map_some]
          exact .cons ⟨rfl, rfl⟩ (ih log hrest)
      · have hother : ¬isFrom c (App.Arrival.fromClient c' now msg) = true := by simp [isFrom, hc]
        rw [givenFrom, List.filter_cons_of_neg hother]
        refine ih log ?_
        simpa [App.Arrival.message, ExPipeServer.dispatchedTo, hc] using h

theorem GivenLog.viewer {v : Viewer} {log : List Logged} {gs : List Given}
    (h : GivenLog L v log gs) : givenTo v gs = gs := by
  refine List.filter_eq_self.2 fun g hg => ?_
  have hall : ∀ g ∈ gs, g.viewer = v := by
    clear hg
    induction h with
    | nil => simp
    | cons hg _ ih => exact List.forall_mem_cons.2 ⟨hg.1, ih⟩
  rw [hall g hg, beq_self_eq_true]

theorem givenFrom_sublist (c : κ) (arrived : List (App.Arrival κ)) :
    (givenFrom c arrived).Sublist (arrived.filterMap App.Arrival.given) :=
  List.filter_sublist.filterMap _

/-- Where nobody else addresses a viewer, it is given what arrived from one client. -/
theorem givenTo_only (c : κ) (v : Viewer) (arrived : List (App.Arrival κ))
    (hclients : ∀ p ∈ arrived.filterMap App.Arrival.message, p.1 ≠ c → p.2.type ≠ clientType v)
    (hfiles : ∀ g ∈ arrived.filterMap App.Arrival.file, g.viewer ≠ v) :
    givenTo v (arrived.filterMap App.Arrival.given) = givenTo v (givenFrom c arrived) := by
  induction arrived with
  | nil => rfl
  | cons x arrived ih =>
    cases x with
    | fromFile g =>
      have hg : g.viewer ≠ v := hfiles g (by simp [App.Arrival.file])
      have ih := ih hclients fun g' hg' => hfiles g' (List.mem_cons_of_mem g hg')
      have hskip : givenTo v (List.filterMap App.Arrival.given (.fromFile g :: arrived)) =
          givenTo v (arrived.filterMap App.Arrival.given) := by
        simp [givenTo, App.Arrival.given, hg]
      rw [hskip, ih]
      rfl
    | fromClient c' now msg =>
      have ih := ih (fun p hp => hclients p (List.mem_cons_of_mem (c', msg) hp)) hfiles
      by_cases hc : c' = c
      · have hmine : isFrom c (App.Arrival.fromClient c' now msg) = true := by simp [isFrom, hc]
        rw [givenFrom, List.filter_cons_of_pos hmine, List.filterMap_cons, List.filterMap_cons]
        cases App.Arrival.given (App.Arrival.fromClient c' now msg) with
        | none => exact ih
        | some g =>
          show List.filter _ (g :: _) = List.filter _ (g :: _)
          rw [List.filter_cons, List.filter_cons]
          show (if _ then g :: givenTo v _ else givenTo v _) =
            if _ then g :: givenTo v (givenFrom c arrived) else givenTo v (givenFrom c arrived)
          rw [ih]
      · have hother : ¬isFrom c (App.Arrival.fromClient c' now msg) = true := by simp [isFrom, hc]
        have htype : msg.type ≠ clientType v :=
          hclients (c', msg) (by simp [App.Arrival.message]) hc
        have hviewer : incommingMessageFromClient msg ≠ some v :=
          fun h => htype ((incommingMessageFromClient_clientType v msg).1 h)
        rw [givenFrom, List.filter_cons_of_neg hother]
        rw [← givenFrom, ← ih]
        cases hv : incommingMessageFromClient msg with
        | none => simp [App.Arrival.given, hv]
        | some v' =>
          have hne : v' ≠ v := by
            rintro rfl
            exact hviewer hv
          simp [givenTo, App.Arrival.given, hv, hne]

/-! ## At rest -/

/-- The viewer shows the entries of a log in order, among other things. -/
structure ShowsLog (L : CborLink) (vs : Viewers) (v : Viewer) (log : List Logged)
    (rows writes : List PipeMessage) : Prop where
  shown : List.Forall₂ (ShownAs L) (log.filter (·.inTable v)) rows
  written : List.Forall₂ (ShownAs L) (log.filter Logged.isWrite) writes
  table : rows.reverse.Sublist ((vs.table v).map TimestampedObject.msg)
  readMsgs : (log.flatMap Logged.rows).Sublist (vs.readMsgs v)
  writeMsgs : writes.Sublist ((vs.writeMsgs v).map TimestampedObject.msg)

/-- The viewer shows nothing else. -/
structure ShowsOnly (vs : Viewers) (v : Viewer) (log : List Logged)
    (rows writes : List PipeMessage) : Prop where
  table : (vs.table v).map TimestampedObject.msg = rows.reverse
  readMsgs : vs.readMsgs v = log.flatMap Logged.rows
  writeMsgs : (vs.writeMsgs v).map TimestampedObject.msg = writes

/-- No other client and no file gives viewer `v` anything. -/
structure OnlyClient (J : JsonLink L) (acts : List (App.Act κ)) (c : κ) (v : Viewer) : Prop where
  clients : ∀ p ∈ (ExPipeServer.run L .init (App.sockets acts)).2, p.1 ≠ c →
    p.2.type ≠ clientType v
  files : ∀ g ∈ acts.flatMap (App.Act.given J), g.viewer ≠ v

/-- **A client's log in its viewer.** -/
theorem log_shown (J : JsonLink L) (acts : List (App.Act κ)) (hrest : (App.run J acts).posted = [])
    (c : κ) (v : Viewer) (log : List Logged) (hlog : ∀ e ∈ log, e.Restored L)
    (hsendable : ∀ e ∈ log, Sendable L (e.message L v))
    (hbytes : (ExPipeServer.clientReads c (App.sockets acts)).flatten =
      (log.map (Logged.message L v)).flatMap (send L true true))
    (hc : ExPipeServer.Event.disconnected c ∉ App.sockets acts) :
    ∃ rows writes, ShowsLog L (App.run J acts).viewers v log rows writes ∧
      (OnlyClient J acts c v → ShowsOnly (App.run J acts).viewers v log rows writes) := by
  obtain ⟨arrived, haccount⟩ := App.account_run J acts
  have hmessages : arrived.filterMap App.Arrival.message =
      (ExPipeServer.run L .init (App.sockets acts)).2 := by
    rw [← haccount.messages, App.waiting, hrest]
    exact (List.append_nil _).symm
  have hshows : Shows L (App.run J acts).viewers v
      (givenTo v (arrived.filterMap App.Arrival.given)) := by
    have hsettled : (App.run J acts).settled L = (App.run J acts).viewers := by
      rw [App.settled, hrest]
      rfl
    rw [← hsettled, haccount.viewers]
    exact (shows_shown _ v).2
  have hgiven : GivenLog L v log (givenFrom c arrived) := by
    apply givenFrom_log
    rw [hmessages]
    exact dispatchedTo_run c _ (List.forall_mem_map.2 hsendable) _ hbytes hc
  obtain ⟨hrows, hbatch, hwrites⟩ := adds_log v log hlog _ hgiven
  have hsublist : (givenFrom c arrived).Sublist
      (givenTo v (arrived.filterMap App.Arrival.given)) := by
    rw [← hgiven.viewer]
    exact (givenFrom_sublist c arrived).filter _
  refine ⟨_, _, ⟨hrows, hwrites, ?_, ?_, ?_⟩, fun honly => ?_⟩
  · rw [hshows.table]
    exact (hsublist.filterMap _).reverse
  · rw [hshows.readMsgs, ← hbatch]
    exact hsublist.flatMap _
  · rw [hshows.writeMsgs]
    exact hsublist.filterMap _
  · have honly : givenTo v (arrived.filterMap App.Arrival.given) = givenFrom c arrived := by
      rw [givenTo_only c v arrived, hgiven.viewer]
      · rw [hmessages]
        exact honly.clients
      · rw [haccount.files]
        exact honly.files
    rw [honly] at hshows
    exact ⟨hshows.table, by rw [hshows.readMsgs, hbatch], hshows.writeMsgs⟩

end

end J2534Oip
