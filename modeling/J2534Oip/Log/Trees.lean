import J2534Oip.Cannelloni.Write
import J2534Oip.Lib.Ownership
import J2534Oip.Wrapper.Load

/-!
# The trees of a log record

What `PassThruWriteMsgs`, `loadDll` and `ExPipeClient::send` do with CBOR trees, operation
by operation.  `ExPipeClient::send` never frees the tree of its message, so no call uses
all its trees right:

    ¬TreesUsedRight sizes call                                    (not_treesUsedRight)

Of the trees of the callers themselves, that of `PassThruWriteMsgs` is used right just when
everything is sent, since an error's text is dead when the record is encoded
(`writeMsgs_respects_iff`); `loadDll` frees a map it put into another (`loadDll_not_respects`).
-/

namespace J2534Oip

open Ledger TreeOp

/-! ## Names -/

/-- The trees of one call. -/
inductive CallTree
  /-- `cb_map_root` -/
  | record
  /-- `cb_map` of `loadDll` -/
  | functions
  /-- `cb_map_root`, `cb_array` and `cb_map_elem` of `map_put_PASSTHRU_MSG` -/
  | msgs | array | elem (i : Nat)
  /-- `cb` of the `k`-th `ExPipeClient::send` -/
  | pipe (k : Nat)
deriving DecidableEq

/-- The strings whose characters are lent. -/
inductive Buffer
  /-- the temporary put under `KEY_Error` -/
  | error
  | dllPath
  /-- the `path` and the `message` given to the `k`-th `ExPipeClient::send` -/
  | path (k : Nat) | message (k : Nat)
deriving DecidableEq

/-- What a call does, as far as trees and log records go. -/
inductive TraceEvent
  | tree (op : TreeOp CallTree Buffer)
  /-- `ExPipeClient::send` is called -/
  | send

def trees (ops : List (TreeOp CallTree Buffer)) : List TraceEvent := ops.map .tree

/-- Whether an encoding finds the size of its tree (`cbor_size != -1`), in the `k`-th record
and in the `k`-th message around it. -/
structure Sizes where
  record : Nat → Bool
  pipe : Nat → Bool

/-! ## The functions -/

/-- `cn_cbor_encoder_write` for the size, then for the bytes. -/
def encodeTwice (t : CallTree) (sized : Bool) : List (TreeOp CallTree Buffer) :=
  if sized then [.encode t, .encode t] else [.encode t]

/-- `ExPipeClient::send` -/
def sendTrace (sizes : Sizes) (k : Nat) : List TraceEvent :=
  .send :: trees ([.create (.pipe k), .put (.pipe k), .put (.pipe k), .put (.pipe k),
    .put (.pipe k), .lend (.pipe k) (.path k), .lend (.pipe k) (.message k), .put (.pipe k)] ++
    encodeTwice (.pipe k) (sizes.pipe k))

/-- `send({…, cbor_to_data(cb_map_root)})`; the message lives as long as the statement. -/
def logTrace (sizes : Sizes) (k : Nat) : List TraceEvent :=
  trees (encodeTwice .record (sizes.record k)) ++ sendTrace sizes k ++
    trees [.dies (.path k), .dies (.message k)]

/-- `map_put_string` of a temporary `std::string` -/
def putError : List (TreeOp CallTree Buffer) := [.lend .record .error, .dies .error]

/-- `map_put_PASSTHRU_MSG` of `n` messages into the record -/
def putPassthruMsg (n : Nat) : List (TreeOp CallTree Buffer) :=
  [.create .msgs, .create .array, .put .msgs] ++
    ((List.range n).map CallTree.elem).flatMap (childOps .array · 7) ++
    [.give .msgs .array, .give .record .msgs]

/-- `PassThruWriteMsgs` -/
def writeMsgsTrace (sizes : Sizes) (client : J2534CannelloniClient) (channelID : UInt32)
    (pMsg : List PassthruMsg) (sendto : Nat → Int) : List TraceEvent :=
  let begin := trees (.create .record :: List.replicate 5 (.put .record))
  -- behind the loop, with `sentMsgs` messages sent and `k` records before
  let tail (sentMsgs k : Nat) :=
    trees (putPassthruMsg sentMsgs ++ [.put .record, .put .record]) ++ logTrace sizes k ++
      trees [.free .record]
  match client.channelMap.lookup channelID with
  | none =>
    begin ++ trees (.put .record :: putError) ++ logTrace sizes 0 ++ trees [.free .record]
  | some ctx =>
    let r := writeLoop client.cannelloniVersion sendto pMsg (.start ctx.seqNo)
    match r.2 with
    | .sendFailed => begin ++ trees putError ++ logTrace sizes 0 ++ trees [.free .record]
    | .invalidMsg =>
      begin ++ trees (.put .record :: putError) ++ logTrace sizes 0 ++ trees [.free .record] ++
        tail r.1.sentMsgs 1
    | .allSent => begin ++ tail r.1.sentMsgs 0

/-- `loadFunction` puts the name, a literal, on both its branches. -/
def loadFunctionTrace (_found : Bool) : List (TreeOp CallTree Buffer) := [.put .functions]

/-- `loadDll`; `exports` is `none` when `LoadLibraryW` fails. -/
def loadDllTrace (sizes : Sizes) (exports : Option (FuncName → Bool)) : List TraceEvent :=
  let begin :=
    trees [.create .record, .create .functions, .put .record, .lend .record .dllPath]
  let finish :=
    logTrace sizes 0 ++ trees [.free .functions, .free .record, .dies .dllPath]
  match exports with
  | some exports =>
    begin ++ trees ((J2534DllWrapper.lookedUp.flatMap fun f => loadFunctionTrace (exports f)) ++
      [.give .record .functions]) ++ finish
  | none => begin ++ trees (.give .record .functions :: putError) ++ finish

/-! ## Calls -/

inductive LogCall
  | writeMsgs (client : J2534CannelloniClient) (channelID : UInt32) (pMsg : List PassthruMsg)
      (sendto : Nat → Int)
  | loadDll (exports : Option (FuncName → Bool))
  | send

def LogCall.trace (sizes : Sizes) : LogCall → List TraceEvent
  | .writeMsgs client channelID pMsg sendto => writeMsgsTrace sizes client channelID pMsg sendto
  | .loadDll exports => loadDllTrace sizes exports
  | .send => sendTrace sizes 0

def TraceEvent.op? : TraceEvent → Option (TreeOp CallTree Buffer)
  | .tree op => some op
  | .send => none

/-- The operations of a trace. -/
def treeOps (trace : List TraceEvent) : List (TreeOp CallTree Buffer) :=
  trace.filterMap TraceEvent.op?

def TraceEvent.isSend : TraceEvent → Bool
  | .tree _ => false
  | .send => true

/-- Every tree and every text is used by the rules, and a write sends one record. -/
structure TreesUsedRight (sizes : Sizes) (call : LogCall) : Prop where
  respects : Respects (treeOps (call.trace sizes))
  oneRecord : ∀ client channelID pMsg sendto, call = .writeMsgs client channelID pMsg sendto →
    (call.trace sizes).countP TraceEvent.isSend = 1

/-! ## The tree of a message is never freed -/

@[simp] theorem treeOps_trees (ops : List (TreeOp CallTree Buffer)) : treeOps (trees ops) = ops := by
  rw [treeOps, trees, List.filterMap_map]
  exact List.filterMap_some

@[simp] theorem treeOps_append (t t' : List TraceEvent) :
    treeOps (t ++ t') = treeOps t ++ treeOps t' := List.filterMap_append

@[simp] theorem treeOps_send (t : List TraceEvent) : treeOps (.send :: t) = treeOps t := rfl

@[simp] theorem keepsAll_encodeTwice (t u : CallTree) (sized : Bool) :
    KeepsAll u (encodeTwice t sized) := by
  cases sized <;> simp [encodeTwice]

@[simp] theorem keepsAll_sendTrace (sizes : Sizes) (k : Nat) (u : CallTree) :
    KeepsAll u (treeOps (sendTrace sizes k)) := by
  simp [sendTrace]

@[simp] theorem keepsAll_logTrace (sizes : Sizes) (k : Nat) (u : CallTree) :
    KeepsAll u (treeOps (logTrace sizes k)) := by
  simp [logTrace]

@[simp] theorem keepsAll_putPassthruMsg (n k : Nat) : KeepsAll (.pipe k) (putPassthruMsg n) := by
  have hloop : KeepsAll (.pipe k)
      (((List.range n).map CallTree.elem).flatMap (childOps .array · 7) :
        List (TreeOp CallTree Buffer)) := by
    refine keepsAll_flatMap _ _ fun c hc => ?_
    obtain ⟨i, -, rfl⟩ := List.mem_map.1 hc
    simp
  simp [putPassthruMsg, hloop]

theorem keepsAll_trace (sizes : Sizes) (call : LogCall) (k : Nat) :
    KeepsAll (.pipe k) (treeOps (call.trace sizes)) := by
  cases call with
  | writeMsgs client channelID pMsg sendto =>
    simp only [LogCall.trace, writeMsgsTrace]
    split
    · simp [putError]
    · split <;> simp [putError]
  | loadDll exports =>
    have hload : ∀ exports : FuncName → Bool, KeepsAll (.pipe k)
        (J2534DllWrapper.lookedUp.flatMap fun f => loadFunctionTrace (exports f)) :=
      fun exports => keepsAll_flatMap _ _ fun f _ => by simp [loadFunctionTrace]
    simp only [LogCall.trace, loadDllTrace]
    split <;> simp [putError, hload]
  | send => exact keepsAll_sendTrace sizes 0 (.pipe k)

theorem create_pipe_mem_sendTrace (sizes : Sizes) (k : Nat) :
    .create (.pipe k) ∈ treeOps (sendTrace sizes k) := by
  simp [sendTrace]

theorem create_pipe_mem_logTrace (sizes : Sizes) (k : Nat) :
    .create (.pipe k) ∈ treeOps (logTrace sizes k) := by
  simp [logTrace, create_pipe_mem_sendTrace]

/-- Every call sends a first message. -/
theorem create_pipe_mem_trace (sizes : Sizes) (call : LogCall) :
    .create (.pipe 0) ∈ treeOps (call.trace sizes) := by
  have hlog := create_pipe_mem_logTrace sizes 0
  cases call with
  | writeMsgs client channelID pMsg sendto =>
    simp only [LogCall.trace, writeMsgsTrace]
    split
    · simp [hlog]
    · split <;> simp [hlog]
  | loadDll exports =>
    simp only [LogCall.trace, loadDllTrace]
    split <;> simp [hlog]
  | send => exact create_pipe_mem_sendTrace sizes 0

/-- **No call uses all its trees right.** -/
theorem not_treesUsedRight (sizes : Sizes) (call : LogCall) : ¬TreesUsedRight sizes call := by
  intro h
  exact not_respects_of_leak (.pipe 0) (create_pipe_mem_trace sizes call)
    (keepsAll_trace sizes call 0) h.respects

/-- An invalid message: the record is sent and freed, then filled, sent and freed again. -/
theorem treesUsedRight_invalidMsg :
    ¬TreesUsedRight ⟨fun _ => true, fun _ => true⟩
      (.writeMsgs .oneOpen 20000 [PassthruMsg.zero] fun _ => 0) := by
  intro h
  have hone := h.oneRecord _ _ _ _ rfl
  exact absurd hone (by decide)

/-! ## The callers' own trees -/

/-- The operation is one of `ExPipeClient::send`. -/
def ofSend : TreeOp CallTree Buffer → Bool
  | .create (.pipe _) | .put (.pipe _) | .lend (.pipe _) _ | .encode (.pipe _) => true
  | _ => false

/-- The operations of a trace without those of `ExPipeClient::send`. -/
def callerOps (trace : List TraceEvent) : List (TreeOp CallTree Buffer) :=
  (treeOps trace).filter fun op => !ofSend op

@[simp] theorem callerOps_append (t t' : List TraceEvent) :
    callerOps (t ++ t') = callerOps t ++ callerOps t' := by
  simp [callerOps]

theorem callerOps_trees (ops : List (TreeOp CallTree Buffer)) (h : ∀ op ∈ ops, ofSend op = false) :
    callerOps (trees ops) = ops := by
  rw [callerOps, treeOps_trees, List.filter_eq_self]
  intro op hop
  rw [h op hop]
  rfl

@[simp] theorem callerOps_logTrace (sizes : Sizes) (k : Nat) : callerOps (logTrace sizes k) =
    encodeTwice .record (sizes.record k) ++ [.dies (.path k), .dies (.message k)] := by
  cases hrecord : sizes.record k <;> cases hpipe : sizes.pipe k <;>
    simp [callerOps, logTrace, sendTrace, encodeTwice, ofSend, hrecord, hpipe]

theorem run_encodeTwice {l : Ledger CallTree Buffer} {t : CallTree}
    {ops : List (TreeOp CallTree Buffer)} (ht : l.root t = some t) (hlent : l.lent = [])
    (sized : Bool) : run l (encodeTwice t sized ++ ops) = run l ops := by
  have halive : l.Alive t := by
    intro e he
    rw [hlent] at he
    cases he
  cases sized with
  | false => exact l.run_encode ht halive
  | true => exact (l.run_encode ht halive).trans (l.run_encode ht halive)

/-- The messages go into the record, and nothing else is left. -/
theorem run_putPassthruMsg {l : Ledger CallTree Buffer} (ops : List (TreeOp CallTree Buffer))
    (hwithin : l.Within [.record]) (hroot : ∀ t, t ≠ .record → l.root t = none)
    (hrecord : l.root .record = some .record) (n : Nat) :
    ∃ l', run l (putPassthruMsg n ++ ops) = run l' ops ∧ l'.lent = l.lent ∧
      l'.Within [.record] ∧ l'.root .record = some .record := by
  -- `cb_map_root`, `cb_array`, then the elements
  have hmsgs : l.root .msgs = none := hroot _ (by decide)
  have harray : (l.create .msgs).root .array = none :=
    (root_create_of_ne (by decide)).trans (hroot _ (by decide))
  have hrecord₂ : ((l.create .msgs).create .array).root .record = some .record :=
    (root_create_of_ne (by decide)).trans ((root_create_of_ne (by decide)).trans hrecord)
  have hmsgs₂ : ((l.create .msgs).create .array).root .msgs = some .msgs :=
    (root_create_of_ne (by decide)).trans root_create_self
  have helem : ∀ c ∈ (List.range n).map CallTree.elem,
      ((l.create .msgs).create .array).root c = none := by
    intro c hc
    obtain ⟨i, -, rfl⟩ := List.mem_map.1 hc
    exact (root_create_of_ne (by simp)).trans
      ((root_create_of_ne (by simp)).trans (hroot _ (by simp)))
  have hnodup : ((List.range n).map CallTree.elem).Nodup :=
    List.nodup_range.map fun i j h => CallTree.elem.inj h
  have hnot : ∀ t, (∀ i, t ≠ .elem i) → t ∉ (List.range n).map CallTree.elem := by
    intro t ht hmem
    obtain ⟨i, -, rfl⟩ := List.mem_map.1 hmem
    exact ht i rfl
  obtain ⟨l₃, hrun, hlent, hkept, hwithin₃⟩ := run_children (l := (l.create .msgs).create .array)
    [.array, .msgs, .record] ([.give .msgs .array, .give .record .msgs] ++ ops)
    ((List.range n).map CallTree.elem) root_create_self helem hnodup 7
  have harray₃ : l₃.root .array = some .array := (hkept _ (hnot _ (by simp))).trans root_create_self
  have hmsgs₃ : l₃.root .msgs = some .msgs := (hkept _ (hnot _ (by simp))).trans hmsgs₂
  have hrecord₃ : l₃.root .record = some .record := (hkept _ (hnot _ (by simp))).trans hrecord₂
  -- the array goes into the map, the map into the record
  have hmsgs₄ : (l₃.give .msgs .array hmsgs₃ (by decide)).root .msgs = some .msgs := by
    rw [root_give, hmsgs₃]
    rfl
  have hrecord₄ : (l₃.give .msgs .array hmsgs₃ (by decide)).root .record = some .record := by
    rw [root_give, hrecord₃]
    rfl
  refine ⟨(l₃.give .msgs .array hmsgs₃ (by decide)).give .record .msgs hrecord₄ (by decide), ?_,
    hlent, ?_, ?_⟩
  · rw [putPassthruMsg, List.append_assoc, List.append_assoc]
    refine (l.run_create hmsgs).trans ?_
    refine ((l.create .msgs).run_create harray).trans ?_
    refine (((l.create .msgs).create .array).run_put hmsgs₂).trans ?_
    refine hrun.trans ?_
    refine (l₃.run_give hmsgs₃ harray₃ (by decide)).trans ?_
    exact (l₃.give .msgs .array hmsgs₃ (by decide)).run_give hrecord₄ hmsgs₄ (by decide)
  · exact ((hwithin₃ hwithin.create.create).give hmsgs₃ (by decide)).give hrecord₄ (by decide)
  · rw [root_give, hrecord₄]
    rfl

theorem ofSend_putPassthruMsg (n : Nat) : ∀ op ∈ putPassthruMsg n, ofSend op = false := by
  simp only [putPassthruMsg, List.forall_mem_append]
  refine ⟨⟨by simp [ofSend], ?_⟩, by simp [ofSend]⟩
  intro op hop
  obtain ⟨c, hc, hop⟩ := List.mem_flatMap.1 hop
  obtain ⟨i, -, rfl⟩ := List.mem_map.1 hc
  simp only [childOps, List.mem_cons, List.mem_append, List.mem_replicate, List.not_mem_nil,
    or_false] at hop
  rcases hop with rfl | ⟨-, rfl⟩ | rfl <;> rfl

section
variable (sizes : Sizes) (client : J2534CannelloniClient) (channelID : UInt32)
  (pMsg : List PassthruMsg) (sendto : Nat → Int)

/-- With everything sent the record is filled, encoded and freed. -/
theorem respects_allSent (n k : Nat) :
    Respects (callerOps (trees (.create .record :: List.replicate 5 (.put .record)) ++
      (trees (putPassthruMsg n ++ [.put .record, .put .record]) ++ logTrace sizes k ++
        trees [.free .record]))) := by
  have hrecord : (create (empty : Ledger CallTree Buffer) .record).root .record = some .record :=
    root_create_self
  obtain ⟨l, hrun, hlent, hwithin, hroot⟩ := run_putPassthruMsg
    (l := (empty : Ledger CallTree Buffer).create .record)
    ([.put .record, .put .record] ++ (encodeTwice .record (sizes.record k) ++
      [.dies (.path k), .dies (.message k), .free .record]))
    within_empty.create (fun t ht => root_create_of_ne ht) hrecord n
  have hops : callerOps (trees (.create .record :: List.replicate 5 (.put .record)) ++
      (trees (putPassthruMsg n ++ [.put .record, .put .record]) ++ logTrace sizes k ++
        trees [.free .record])) =
      .create .record :: (List.replicate 5 (.put .record) ++ (putPassthruMsg n ++
        ([.put .record, .put .record] ++ (encodeTwice .record (sizes.record k) ++
          [.dies (.path k), .dies (.message k), .free .record])))) := by
    have hput : ∀ op ∈ putPassthruMsg n ++ [.put .record, .put .record], ofSend op = false :=
      List.forall_mem_append.2 ⟨ofSend_putPassthruMsg n, by simp [ofSend]⟩
    rw [callerOps_append, callerOps_append, callerOps_append, callerOps_logTrace,
      callerOps_trees _ hput, callerOps_trees [.free .record] (by simp [ofSend]),
      callerOps_trees (.create .record :: _) (by simp [ofSend])]
    simp
  let l' : Ledger CallTree Buffer :=
    { l with dead := .message k :: .path k :: l.dead }
  refine ⟨l'.free .record, ?_, Within.root_eq_none (Within.free (l := l') hwithin)⟩
  rw [hops, run_create _ rfl, run_puts _ hrecord, hrun]
  refine (l.run_put hroot).trans ((l.run_put hroot).trans ?_)
  refine (run_encodeTwice hroot hlent _).trans ?_
  exact l'.run_free hroot

/-- An error's text is dead when the record is encoded. -/
theorem not_respects_putError (pre post : List TraceEvent) (k : Nat) :
    ¬Respects (callerOps (pre ++ trees putError ++ logTrace sizes k ++ post)) := by
  have hops : callerOps (pre ++ trees putError ++ logTrace sizes k ++ post) = callerOps pre ++
      .lend .record .error :: .dies .error :: .encode .record ::
        ((if sizes.record k then [.encode .record] else []) ++
          [.dies (.path k), .dies (.message k)] ++ callerOps post) := by
    rw [callerOps_append, callerOps_append, callerOps_append, callerOps_logTrace,
      callerOps_trees putError (by simp [putError, ofSend])]
    cases sizes.record k <;> simp [putError, encodeTwice]
  rw [hops]
  exact not_respects_of_dead_text _ _ _ _

/-- **The record of a write is used right just when everything is sent.** -/
theorem writeMsgs_respects_iff :
    Respects (callerOps (writeMsgsTrace sizes client channelID pMsg sendto)) ↔
      ∃ ctx, client.channelMap.lookup channelID = some ctx ∧
        (writeLoop client.cannelloniVersion sendto pMsg (.start ctx.seqNo)).2 = .allSent := by
  have hcons : trees (.put .record :: putError) = trees [.put .record] ++ trees putError := rfl
  unfold writeMsgsTrace
  cases client.channelMap.lookup channelID with
  | none =>
    refine iff_of_false ?_ (by simp)
    simp only [hcons, ← List.append_assoc]
    exact not_respects_putError sizes _ _ 0
  | some ctx =>
    simp only [Option.some.injEq, exists_eq_left']
    cases hexit : (writeLoop client.cannelloniVersion sendto pMsg (.start ctx.seqNo)).2 with
    | sendFailed => exact iff_of_false (not_respects_putError sizes _ _ 0) (by simp)
    | invalidMsg =>
      refine iff_of_false ?_ (by simp)
      simp only [hcons, ← List.append_assoc]
      rw [List.append_assoc, List.append_assoc, List.append_assoc]
      exact not_respects_putError sizes _ _ 0
    | allSent => exact iff_of_true (respects_allSent sizes _ 0) rfl

/-- `loadDll` frees the map of functions, which is part of the record. -/
theorem loadDll_not_respects (exports : Option (FuncName → Bool)) :
    ¬Respects (callerOps (loadDllTrace sizes exports)) := by
  have hlog : callerOps (logTrace sizes 0 ++ trees [.free .functions, .free .record,
      .dies .dllPath]) = (encodeTwice .record (sizes.record 0) ++
        [.dies (.path 0), .dies (.message 0)]) ++
          .free .functions :: [.free .record, .dies .dllPath] := by
    rw [callerOps_append, callerOps_logTrace, callerOps_trees _ (by simp [ofSend])]
  have hmid : ∀ ops : List (TreeOp CallTree Buffer), .create .functions ∉ ops →
      .create .functions ∉ ops ++ (encodeTwice .record (sizes.record 0) ++
        [.dies (.path 0), .dies (.message 0)]) := by
    intro ops hops
    cases sizes.record 0 <;> simp [encodeTwice, hops]
  unfold loadDllTrace
  cases exports with
  | none =>
    have hput : callerOps (trees (.give .record .functions :: putError)) =
        .give .record .functions :: putError := callerOps_trees _ (by simp [putError, ofSend])
    simp only [callerOps_append (_ ++ _), callerOps_append (trees _) (trees _), hlog, hput]
    rw [List.append_assoc, List.cons_append, ← List.append_assoc putError]
    exact not_respects_of_freed_child _ _ _ _ _ (hmid putError (by simp [putError]))
  | some exports =>
    have hgive : ∀ ops, trees (ops ++ [.give .record .functions]) =
        trees ops ++ trees [.give .record .functions] := fun ops => List.map_append
    have hput : callerOps (trees [.give .record .functions]) = [.give .record .functions] :=
      callerOps_trees _ (by simp [ofSend])
    simp only [hgive, callerOps_append (_ ++ _), callerOps_append (trees _), hlog, hput]
    rw [List.append_assoc, List.append_assoc, List.singleton_append, ← List.append_assoc]
    exact not_respects_of_freed_child _ _ _ _ _ (hmid [] (by simp))

end

end J2534Oip
