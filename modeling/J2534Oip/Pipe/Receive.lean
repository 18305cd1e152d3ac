import J2534Oip.Pipe.Decode
import Mathlib.Data.List.Infix

/-!
# `ExPipeClient`: receiving a message

`receive` peeks, reads the length, peeks again and gives up when the body is not all there;
the length is then gone.  So over any schedule of arrivals nothing is lost, and the messages are
those the frames say, exactly when no call finds a length without its body or a body it does not
read right:

    chunks.flatten <+: bodies.flatMap frame →
      (LosesNothing C bodies chunks ↔ ∀ call, FindsFrame C call)    (receive_losesNothing_iff)

Of what `send` wrote no call may find a frame at all (receive_sent_iff).
-/

namespace J2534Oip.ExPipeClient

open Bytes

variable {ν : Type} (C : CnCborReader ν)

/-! ## One call -/

/-- What a call gives: `Message{}`, a message, the exception of `std::vector`, or nothing, a
pointer that is none being dereferenced. -/
inductive Received
  | empty
  | message (msg : Message)
  | lengthError
  | fault
deriving DecidableEq

def Received.of : Option Message → Received
  | some msg => .message msg
  | none => .fault

/-- `receive` on what is unread in the pipe, and what it leaves there.  `size` is an `int` that
is compared as a `DWORD`. -/
def receive (memory : Memory) (unread : List UInt8) : Received × List UInt8 :=
  if unread.length < 4 then (.empty, unread)
  else
    let size := ofLE (unread.take 4)
    -- read, and so gone from the pipe
    let unread := unread.drop 4
    if unread.length < size then (.empty, unread)
    else if 2 ^ 31 ≤ size then (.lengthError, unread)
    else (.of (messageOfBody C memory (unread.take size)), unread.drop size)

/-! ## Successive calls -/

/-- Before each call a piece of the stream arrives. -/
abbrev Arrival := List UInt8 × Memory

/-- A call: what was unread when it was made, what it gave, and what it left. -/
structure Call where
  memory : Memory
  unread : List UInt8
  result : Received
  left : List UInt8

def Call.of (memory : Memory) (unread : List UInt8) : Call :=
  { memory := memory, unread := unread, result := (receive C memory unread).1,
    left := (receive C memory unread).2 }

def calls : List UInt8 → List Arrival → List Call
  | _, [] => []
  | unread, arrival :: arrivals =>
    let call := Call.of C arrival.2 (unread ++ arrival.1)
    call :: calls call.left arrivals

def Received.messages : Received → List Message
  | .message msg => [msg]
  | _ => []

/-- The messages that calls gave. -/
def returned (cs : List Call) : List Message := cs.flatMap fun call => call.result.messages

/-! ## Losing nothing -/

/-- The state of affairs after a call, when the frames have the given bodies: `arrived` is
what came through the pipe, `given` all messages so far. -/
structure CallRight (bodies : List (List UInt8)) (arrived : List UInt8) (given : List Message)
    (call : Call) : Prop where
  /-- the messages are what the first frames say, in order -/
  inOrder : List.Forall₂ (MessageOf C) (bodies.take given.length) given
  /-- the pipe is at a frame boundary -/
  boundary : (bodies.take given.length).flatMap frame ++ call.left = arrived
  /-- an empty message means that no frame is there, and takes nothing -/
  empty : call.result = .empty → call.left = call.unread ∧
    ∀ k ≤ bodies.length, ((bodies.take k).flatMap frame).length ≤ arrived.length →
      k ≤ given.length
  noError : call.result ≠ .lengthError ∧ call.result ≠ .fault

/-- All is right after each call, starting with `unread` in the pipe. -/
def AllRight (bodies : List (List UInt8)) (unread : List UInt8) (arrivals : List Arrival) : Prop :=
  ∀ n call, (calls C unread arrivals)[n]? = some call →
    CallRight C bodies (unread ++ (arrivals.take (n + 1)).flatMap Prod.fst)
      (returned ((calls C unread arrivals).take (n + 1))) call

/-- Calls on a new pipe. -/
def LosesNothing (bodies : List (List UInt8)) (arrivals : List Arrival) : Prop :=
  AllRight C bodies [] arrivals

/-- There is no length, or one that an `int` holds and all of the body it announces. -/
def HeaderHasBody (unread : List UInt8) : Prop :=
  unread.length < 4 ∨ ofLE (unread.take 4) < 2 ^ 31 ∧ 4 + ofLE (unread.take 4) ≤ unread.length

/-- The body behind the length at the front. -/
def firstBody (unread : List UInt8) : List UInt8 := (unread.drop 4).take (ofLE (unread.take 4))

/-- And that body is read right. -/
def FindsFrame (call : Call) : Prop :=
  HeaderHasBody call.unread ∧
    (4 ≤ call.unread.length → ReadRight C call.memory (firstBody call.unread))

/-! ## Frames at the front of a pipe -/

/-- A body that is not empty and whose length has 4 bytes. -/
def BodyOk (body : List UInt8) : Prop := 1 ≤ body.length ∧ body.length < 2 ^ 32

theorem length_frame (body : List UInt8) : (frame body).length = 4 + body.length := by
  rw [frame, List.length_append, length_leBytes]

/-- The length at the front of a stream of frames is that of the first body. -/
theorem ofLE_take_of_isPrefix {body : List UInt8} {rest unread : List UInt8} (h : BodyOk body)
    (hpre : unread <+: frame body ++ rest) (h4 : 4 ≤ unread.length) :
    ofLE (unread.take 4) = body.length := by
  obtain ⟨more, hmore⟩ := hpre
  have hlt := h.2
  have htake : unread.take 4 = leBytes 4 body.length := by
    have hfront := congrArg (List.take 4) hmore
    rw [List.take_append_of_le_length h4, frame, List.append_assoc,
      List.take_left' (length_leBytes 4 _)] at hfront
    exact hfront
  rw [htake, ofLE_leBytes]
  omega

/-- With all of its bytes there, the first frame is at the front. -/
theorem eq_append_of_isPrefix {body : List UInt8} {rest unread : List UInt8}
    (hpre : unread <+: frame body ++ rest) (hlen : (frame body).length ≤ unread.length) :
    ∃ left, unread = frame body ++ left := by
  obtain ⟨left, hleft⟩ := List.prefix_of_prefix_length_le (List.prefix_append _ _) hpre hlen
  exact ⟨left, hleft.symm⟩

theorem receive_short (memory : Memory) (unread : List UInt8) (h : unread.length < 4) :
    receive C memory unread = (.empty, unread) := by
  rw [receive, if_pos h]

theorem receive_frame (memory : Memory) (body left : List UInt8) (h : BodyOk body)
    (hlt : body.length < 2 ^ 31) :
    receive C memory (frame body ++ left) = (.of (messageOfBody C memory body), left) := by
  have h4 : ¬(frame body ++ left).length < 4 := by
    rw [List.length_append, length_frame]
    omega
  have hsize := ofLE_take_of_isPrefix h (List.prefix_refl (frame body ++ left)) (Nat.le_of_not_lt h4)
  have hdrop : (frame body ++ left).drop 4 = body ++ left := by
    rw [frame, List.append_assoc, List.drop_left' (length_leBytes 4 _)]
  have hall : ¬(body ++ left).length < body.length := by
    rw [List.length_append]
    omega
  simp only [receive, if_neg h4, hsize, hdrop, if_neg hall, if_neg (Nat.not_le.2 hlt),
    List.take_left, List.drop_left]

theorem firstBody_frame (body left : List UInt8) (h : BodyOk body) :
    firstBody (frame body ++ left) = body := by
  have hsize := ofLE_take_of_isPrefix h (List.prefix_refl (frame body ++ left)) (by
    rw [List.length_append, length_frame]
    omega)
  rw [firstBody, hsize, frame, List.append_assoc, List.drop_left' (length_leBytes 4 _),
    List.take_left]

/-- A length without its body, or one that is no `int`: it is read, and nothing is given. -/
theorem receive_torn (memory : Memory) (unread : List UInt8) (h : ¬HeaderHasBody unread) :
    receive C memory unread = (.empty, unread.drop 4) ∨
      receive C memory unread = (.lengthError, unread.drop 4) := by
  obtain ⟨h4, hbody⟩ := not_or.1 h
  by_cases hshort : (unread.drop 4).length < ofLE (unread.take 4)
  · left
    simp only [receive, if_neg h4, if_pos hshort]
  · right
    have hlong : 2 ^ 31 ≤ ofLE (unread.take 4) := by
      rw [List.length_drop] at hshort
      omega
    simp only [receive, if_neg h4, if_neg hshort, if_pos hlong]

/-! ## The first call and the others -/

theorem returned_cons (call : Call) (cs : List Call) :
    returned (call :: cs) = call.result.messages ++ returned cs := rfl

/-- What is right of all calls, by the first of them. -/
theorem allRight_cons (bodies : List (List UInt8)) (unread : List UInt8) (arrival : Arrival)
    (arrivals : List Arrival) (call : Call)
    (hcall : Call.of C arrival.2 (unread ++ arrival.1) = call) :
    AllRight C bodies unread (arrival :: arrivals) ↔
      CallRight C bodies (unread ++ arrival.1) call.result.messages call ∧
      ∀ n next, (calls C call.left arrivals)[n]? = some next →
        CallRight C bodies (unread ++ arrival.1 ++ (arrivals.take (n + 1)).flatMap Prod.fst)
          (call.result.messages ++ returned ((calls C call.left arrivals).take (n + 1))) next := by
  have hcalls : calls C unread (arrival :: arrivals) = call :: calls C call.left arrivals := by
    rw [← hcall]
    rfl
  have hone : returned [call] = call.result.messages := by
    rw [returned_cons]
    exact List.append_nil _
  rw [AllRight, hcalls]
  constructor
  · intro hall
    refine ⟨?_, fun n next hnext => ?_⟩
    · have hfirst := hall 0 call rfl
      simpa only [Nat.zero_add, List.take_succ_cons, List.take_zero, List.flatMap_cons,
        List.flatMap_nil, List.append_nil, hone] using hfirst
    · have hlater := hall (n + 1) next hnext
      simpa only [List.take_succ_cons, List.flatMap_cons, List.append_assoc, returned_cons]
        using hlater
  · rintro ⟨hfirst, hlater⟩ n next hnext
    cases n with
    | zero =>
      obtain rfl : call = next := Option.some.inj hnext
      simpa only [Nat.zero_add, List.take_succ_cons, List.take_zero, List.flatMap_cons,
        List.flatMap_nil, List.append_nil, hone] using hfirst
    | succ n =>
      have hlater := hlater n next hnext
      simpa only [List.take_succ_cons, List.flatMap_cons, List.append_assoc, returned_cons]
        using hlater

/-- A frame that was taken can be left out of the account. -/
theorem callRight_cons (body : List UInt8) (bodies : List (List UInt8)) (arrived : List UInt8)
    (msg : Message) (given : List Message) (call : Call) (hmsg : MessageOf C body msg) :
    CallRight C (body :: bodies) (frame body ++ arrived) (msg :: given) call ↔
      CallRight C bodies arrived given call := by
  constructor
  · rintro ⟨horder, hboundary, hempty, herror⟩
    rw [List.length_cons, List.take_succ_cons] at horder hboundary
    refine ⟨(List.forall₂_cons.1 horder).2, ?_, fun hres => ?_, herror⟩
    · rw [List.flatMap_cons, List.append_assoc] at hboundary
      exact List.append_cancel_left hboundary
    · obtain ⟨hleft, hcount⟩ := hempty hres
      refine ⟨hleft, fun k hk hlen => ?_⟩
      have hnext := hcount (k + 1) (Nat.succ_le_succ hk) (by
        rw [List.take_succ_cons, List.flatMap_cons, List.length_append, List.length_append]
        omega)
      exact Nat.le_of_succ_le_succ hnext
  · rintro ⟨horder, hboundary, hempty, herror⟩
    refine ⟨?_, ?_, fun hres => ?_, herror⟩
    · rw [List.length_cons, List.take_succ_cons]
      exact List.Forall₂.cons hmsg horder
    · rw [List.length_cons, List.take_succ_cons, List.flatMap_cons, List.append_assoc, hboundary]
    · obtain ⟨hleft, hcount⟩ := hempty hres
      refine ⟨hleft, fun k hk hlen => ?_⟩
      cases k with
      | zero => exact Nat.zero_le _
      | succ k =>
        refine Nat.succ_le_succ (hcount k (Nat.le_of_succ_le_succ hk) ?_)
        rw [List.take_succ_cons, List.flatMap_cons, List.length_append, List.length_append] at hlen
        omega

/-- A call that finds less than a length. -/
theorem callRight_short (bodies : List (List UInt8)) (hbodies : ∀ body ∈ bodies, BodyOk body)
    (memory : Memory) (unread : List UInt8) (h : unread.length < 4) :
    CallRight C bodies unread [] (Call.of C memory unread) := by
  have hcall : Call.of C memory unread =
      { memory := memory, unread := unread, result := .empty, left := unread } := by
    rw [Call.of, receive_short C memory unread h]
  rw [hcall]
  refine ⟨List.Forall₂.nil, rfl, fun _ => ⟨rfl, fun k hk hlen => ?_⟩, nofun, nofun⟩
  cases k with
  | zero => exact Nat.le_refl _
  | succ k =>
    cases bodies with
    | nil => exact absurd hk (Nat.not_succ_le_zero k)
    | cons body bodies =>
      rw [List.take_succ_cons, List.flatMap_cons, List.length_append, length_frame] at hlen
      omega

/-- A call that finds a frame and reads it right. -/
theorem callRight_frame (body : List UInt8) (bodies : List (List UInt8)) (left : List UInt8)
    (memory : Memory) (msg : Message) (hof : MessageOf C body msg) :
    CallRight C (body :: bodies) (frame body ++ left) [msg]
      { memory := memory, unread := frame body ++ left, result := .message msg, left := left } := by
  refine ⟨List.Forall₂.cons hof List.Forall₂.nil, ?_, nofun, nofun, nofun⟩
  show (List.take 1 (body :: bodies)).flatMap frame ++ left = _
  rw [List.take_succ_cons, List.take_zero, List.flatMap_cons, List.flatMap_nil, List.append_nil]

/-- A call that takes a frame is right if it gives what the frame says. -/
theorem readRight_of_callRight (body : List UInt8) (bodies : List (List UInt8))
    (left arrived : List UInt8) (memory : Memory)
    (h : CallRight C (body :: bodies) arrived (Received.of (messageOfBody C memory body)).messages
      { memory := memory, unread := frame body ++ left,
        result := .of (messageOfBody C memory body), left := left }) :
    ReadRight C memory body := by
  refine (readRight_iff C memory body).1 ?_
  cases hmsg : messageOfBody C memory body with
  | none =>
    rw [hmsg] at h
    exact absurd rfl h.noError.2
  | some msg =>
    rw [hmsg] at h
    exact ⟨msg, rfl, (List.forall₂_cons.1 h.inOrder).1⟩

/-! ## Any schedule -/

section
variable (bodies : List (List UInt8)) (unread : List UInt8) (arrival : Arrival)
  (arrivals : List Arrival)

/-- No length yet: the pipe is as it was. -/
theorem allRight_short (hbodies : ∀ body ∈ bodies, BodyOk body)
    (h : (unread ++ arrival.1).length < 4) :
    AllRight C bodies unread (arrival :: arrivals) ↔
      AllRight C bodies (unread ++ arrival.1) arrivals := by
  have hcall : Call.of C arrival.2 (unread ++ arrival.1) =
      { memory := arrival.2, unread := unread ++ arrival.1, result := .empty,
        left := unread ++ arrival.1 } := by
    rw [Call.of, receive_short C arrival.2 _ h]
  have hright := callRight_short C bodies hbodies arrival.2 _ h
  rw [hcall] at hright
  rw [allRight_cons C bodies unread arrival arrivals _ hcall]
  exact and_iff_right hright

/-- The first frame is there, and taken; it has to be read right. -/
theorem allRight_frame (body left : List UInt8) (hbody : BodyOk body)
    (hlt : body.length < 2 ^ 31) (h : unread ++ arrival.1 = frame body ++ left) :
    AllRight C (body :: bodies) unread (arrival :: arrivals) ↔
      ReadRight C arrival.2 body ∧ AllRight C bodies left arrivals := by
  have hcall : Call.of C arrival.2 (unread ++ arrival.1) =
      { memory := arrival.2, unread := frame body ++ left,
        result := .of (messageOfBody C arrival.2 body), left := left } := by
    rw [Call.of, h, receive_frame C arrival.2 body left hbody hlt]
  rw [allRight_cons C (body :: bodies) unread arrival arrivals _ hcall, h]
  constructor
  · rintro ⟨hfirst, hlater⟩
    have hread := readRight_of_callRight C body bodies left _ arrival.2 hfirst
    obtain ⟨msg, hmsg, hof⟩ := (readRight_iff C arrival.2 body).2 hread
    refine ⟨hread, fun n next hnext => ?_⟩
    have hnext' := hlater n next hnext
    rw [List.append_assoc, hmsg] at hnext'
    exact (callRight_cons C body bodies _ _ _ next hof).1 hnext'
  · rintro ⟨hread, hall⟩
    obtain ⟨msg, hmsg, hof⟩ := (readRight_iff C arrival.2 body).2 hread
    rw [hmsg]
    refine ⟨callRight_frame C body bodies left arrival.2 msg hof, fun n next hnext => ?_⟩
    rw [List.append_assoc]
    exact (callRight_cons C body bodies _ _ _ next hof).2 (hall n next hnext)

/-- A length without its body is taken, though nothing is given. -/
theorem not_allRight_torn (h : ¬HeaderHasBody (unread ++ arrival.1)) :
    ¬AllRight C bodies unread (arrival :: arrivals) := by
  intro hall
  have hfirst := ((allRight_cons C bodies unread arrival arrivals _ rfl).1 hall).1
  rcases receive_torn C arrival.2 _ h with hcall | hcall
  · have hresult : (Call.of C arrival.2 (unread ++ arrival.1)).result = .empty := by
      rw [Call.of, hcall]
    have hleft : (unread ++ arrival.1).drop 4 = unread ++ arrival.1 := by
      have hsame := (hfirst.empty hresult).1
      simpa only [Call.of, hcall] using hsame
    have hlen := congrArg List.length hleft
    have h4 := (not_or.1 h).1
    rw [List.length_drop] at hlen
    omega
  · refine hfirst.noError.1 ?_
    rw [Call.of, hcall]

end

/-- What a whole length announces is the first frame. -/
theorem frame_of_headerHasBody {bodies : List (List UInt8)} {unread : List UInt8}
    (hbodies : ∀ body ∈ bodies, BodyOk body) (hpre : unread <+: bodies.flatMap frame)
    (hwhole : HeaderHasBody unread) (h4 : ¬unread.length < 4) :
    ∃ body rest left, bodies = body :: rest ∧ body.length < 2 ^ 31 ∧ unread = frame body ++ left := by
  cases bodies with
  | nil =>
    obtain rfl := List.prefix_nil.1 hpre
    exact absurd (Nat.zero_lt_succ 3) h4
  | cons body bodies =>
    rw [List.flatMap_cons] at hpre
    have hbody := hbodies body List.mem_cons_self
    obtain ⟨hlt, hlen⟩ := hwhole.resolve_left h4
    rw [ofLE_take_of_isPrefix hbody hpre (Nat.le_of_not_lt h4)] at hlt hlen
    rw [← length_frame] at hlen
    obtain ⟨left, hleft⟩ := eq_append_of_isPrefix hpre hlen
    exact ⟨body, bodies, left, rfl, hlt, hleft⟩

/-- From any frame boundary. -/
theorem allRight_iff (bodies : List (List UInt8)) (hbodies : ∀ body ∈ bodies, BodyOk body)
    (unread : List UInt8) (arrivals : List Arrival)
    (hpre : unread ++ arrivals.flatMap Prod.fst <+: bodies.flatMap frame) :
    AllRight C bodies unread arrivals ↔ ∀ call ∈ calls C unread arrivals, FindsFrame C call := by
  induction arrivals generalizing bodies unread with
  | nil =>
    refine iff_of_true (fun n call hcall => ?_) fun call hcall => ?_
    · cases hcall
    · cases hcall
  | cons arrival arrivals ih =>
    rw [List.flatMap_cons, ← List.append_assoc] at hpre
    simp only [calls, List.forall_mem_cons]
    show _ ↔ (HeaderHasBody (unread ++ arrival.1) ∧ (4 ≤ (unread ++ arrival.1).length →
      ReadRight C arrival.2 (firstBody (unread ++ arrival.1)))) ∧ _
    by_cases hwhole : HeaderHasBody (unread ++ arrival.1)
    · rw [and_iff_right hwhole]
      by_cases hshort : (unread ++ arrival.1).length < 4
      · have hleft : (Call.of C arrival.2 (unread ++ arrival.1)).left = unread ++ arrival.1 := by
          rw [Call.of, receive_short C arrival.2 _ hshort]
        rw [hleft, allRight_short C bodies unread arrival arrivals hbodies hshort,
          and_iff_right fun h4 => absurd hshort (Nat.not_lt.2 h4)]
        exact ih bodies hbodies (unread ++ arrival.1) hpre
      · have hfront : unread ++ arrival.1 <+: bodies.flatMap frame :=
          (List.prefix_append _ _).trans hpre
        obtain ⟨body, rest, left, rfl, hlt, h⟩ := frame_of_headerHasBody hbodies hfront hwhole hshort
        obtain ⟨hbody, hrest⟩ := List.forall_mem_cons.1 hbodies
        have hleft : (Call.of C arrival.2 (unread ++ arrival.1)).left = left := by
          rw [Call.of, h, receive_frame C arrival.2 body left hbody hlt]
        have hfirst : firstBody (unread ++ arrival.1) = body := by
          rw [h, firstBody_frame body left hbody]
        rw [h, List.append_assoc, List.flatMap_cons, List.prefix_append_right_inj] at hpre
        rw [hleft, hfirst, allRight_frame C rest unread arrival arrivals body left hbody hlt h,
          imp_iff_right (Nat.le_of_not_lt hshort), ih rest hrest left hpre]
    · exact iff_of_false (not_allRight_torn C bodies unread arrival arrivals hwhole)
        fun h => hwhole h.1.1

/-- **When polling loses nothing**: over any schedule, when no call finds a length and not
all of its body, or one that is no `int`, and each body a call finds is read right. -/
theorem receive_losesNothing_iff (bodies : List (List UInt8))
    (hbodies : ∀ body ∈ bodies, BodyOk body) (arrivals : List Arrival)
    (harrivals : arrivals.flatMap Prod.fst <+: bodies.flatMap frame) :
    LosesNothing C bodies arrivals ↔ ∀ call ∈ calls C [] arrivals, FindsFrame C call :=
  allRight_iff C bodies hbodies [] arrivals harrivals

theorem bodiesOk_bodyOf (msgs : List Message) (hmsgs : ∀ msg ∈ msgs, Sendable .rfc8949 msg) :
    ∀ body ∈ msgs.map bodyOf, BodyOk body := by
  intro body hbody
  obtain ⟨msg, hmsg, rfl⟩ := List.mem_map.1 hbody
  obtain ⟨cbor, hwrite, hpos, hlt⟩ := (hmsgs msg hmsg).size
  obtain rfl : bodyOf msg = cbor := Option.some.inj hwrite
  exact ⟨hpos, hlt.trans (by decide)⟩

/-- While calls are right no frame of `send` is found, so what is unread only grows. -/
theorem short_of_findsFrame (msgs : List Message) (hmsgs : ∀ msg ∈ msgs, Sendable .rfc8949 msg)
    (unread : List UInt8) (arrivals : List Arrival)
    (hpre : unread ++ arrivals.flatMap Prod.fst <+: (msgs.map bodyOf).flatMap frame)
    (hfinds : ∀ call ∈ calls .rfc8949 unread arrivals, FindsFrame .rfc8949 call) :
    ∀ call ∈ calls .rfc8949 unread arrivals, call.unread.length < 4 := by
  induction arrivals generalizing unread with
  | nil =>
    intro call hcall
    cases hcall
  | cons arrival arrivals ih =>
    rw [List.flatMap_cons, ← List.append_assoc] at hpre
    simp only [calls, List.forall_mem_cons] at hfinds ⊢
    have hfirst : HeaderHasBody (unread ++ arrival.1) ∧ (4 ≤ (unread ++ arrival.1).length →
        ReadRight .rfc8949 arrival.2 (firstBody (unread ++ arrival.1))) := hfinds.1
    have hshort : (unread ++ arrival.1).length < 4 := by
      by_contra h4
      have hbodies := bodiesOk_bodyOf msgs hmsgs
      obtain ⟨body, rest, left, hmap, -, h⟩ := frame_of_headerHasBody hbodies
        ((List.prefix_append _ _).trans hpre) hfirst.1 h4
      have hmem : body ∈ msgs.map bodyOf := by
        rw [hmap]
        exact List.mem_cons_self
      have hread := hfirst.2 (Nat.le_of_not_lt h4)
      rw [h, firstBody_frame body left (hbodies body hmem)] at hread
      obtain ⟨msg, hmsg, rfl⟩ := List.mem_map.1 hmem
      exact not_readRight_bodyOf arrival.2 msg (hmsgs msg hmsg) hread
    have hleft : (Call.of .rfc8949 arrival.2 (unread ++ arrival.1)).left = unread ++ arrival.1 := by
      rw [Call.of, receive_short _ arrival.2 _ hshort]
    refine ⟨hshort, ?_⟩
    have hlater := hfinds.2
    rw [hleft] at hlater ⊢
    exact ih (unread ++ arrival.1) hpre hlater

/-- **Of frames that `send` wrote** every one that a call finds is lost or misread. -/
theorem receive_sent_iff (msgs : List Message) (hmsgs : ∀ msg ∈ msgs, Sendable .rfc8949 msg)
    (arrivals : List Arrival)
    (harrivals : arrivals.flatMap Prod.fst <+: (msgs.map bodyOf).flatMap frame) :
    LosesNothing .rfc8949 (msgs.map bodyOf) arrivals ↔
      ∀ call ∈ calls .rfc8949 [] arrivals, call.unread.length < 4 := by
  have hbodies := bodiesOk_bodyOf msgs hmsgs
  rw [LosesNothing, allRight_iff .rfc8949 _ hbodies [] arrivals harrivals]
  constructor
  · exact short_of_findsFrame msgs hmsgs [] arrivals harrivals
  · intro hshort call hcall
    exact ⟨Or.inl (hshort call hcall), fun h4 => absurd (hshort call hcall) (Nat.not_lt.2 h4)⟩

/-- A body in which a NUL follows each text: the key 0 behind `path`, the end of the buffer behind
`message`. -/
def oneBody : List UInt8 :=
  Cbor.encode (.map [(.text (utf8 "id"), .int 1), (.text (utf8 "type"), .int 0),
    (.text (utf8 "data_type"), .int 2), (.text (utf8 "timestamp"), .int 5),
    (.text (utf8 "data"), .bytes [7]), (.text (utf8 "path"), .text (utf8 "a")), (.int 0, .int 0),
    (.text (utf8 "message"), .text (utf8 "b"))])

/-- Memory that happens to hold what `oneBody` says. -/
def oneMemory : Memory := { dataType := 2, timestamp := 5, behind := [], union := fun _ => 0 }

/-- The frame in two pieces, cut in its length: one message, and nothing lost. -/
theorem receive_losesNothing_one :
    let arrivals : List Arrival :=
      [((frame oneBody).take 2, oneMemory), ((frame oneBody).drop 2, oneMemory)]
    returned (calls .rfc8949 [] arrivals) = [⟨1, 0, 2, 5, utf8 "a", utf8 "b", [7]⟩] ∧
      (LosesNothing .rfc8949 [oneBody] arrivals ↔
        ∀ call ∈ calls .rfc8949 [] arrivals, FindsFrame .rfc8949 call) := by
  intro arrivals
  refine ⟨by decide +kernel, receive_losesNothing_iff .rfc8949 [oneBody] ?_ arrivals ?_⟩
  · rintro body hbody
    obtain rfl := List.mem_singleton.1 hbody
    exact ⟨by decide +kernel, by decide +kernel⟩
  · show _ ++ (_ ++ []) <+: frame oneBody ++ []
    rw [List.append_nil, List.take_append_drop, List.append_nil]

/-- A message of `send`; its length arrives before its body: the first call takes the length, the
second takes the first four bytes of the body for one. -/
theorem receive_losesNothing_torn :
    let msg : Message := ⟨1, 0, 0, 0, utf8 "a", utf8 "b", [0]⟩
    ¬LosesNothing .rfc8949 [bodyOf msg]
      [((frame (bodyOf msg)).take 4, oneMemory), ((frame (bodyOf msg)).drop 4, oneMemory)] := by
  intro msg h
  have hfirst := (h 0 _ rfl).empty (by decide +kernel)
  exact absurd hfirst.1 (by decide +kernel)

end J2534Oip.ExPipeClient
