import J2534Oip.Cannelloni.Api
import Mathlib.Order.Monotone.Defs

/-!
# `PassThruReadMsgs` as a whole call

Two of its promises fail:

* the status is computed after `*pNumMsgs` was overwritten, so it is right exactly when
  nothing was asked for or something was there (`readsRight_iff`);
* the loop ends at the first empty queue, so the timeout is honoured exactly when the queue
  is never found empty before the deadline (`honoursTimeout_iff`).
-/

namespace J2534Oip

namespace J2534CannelloniClient

/-! ## Without a timeout -/

/-- No clock and no arrivals: the loop takes from the front. -/
theorem readLoop_zero (requested : Nat) (elapsed : Nat → Nat) (n : Nat)
    (got queue : List PassthruMsg) (h : got.length + n = requested) :
    readLoop requested 0 elapsed (fun _ => []) n got queue =
      (got ++ queue.take n, queue.drop n) := by
  induction n generalizing got queue with
  | zero => simp [readLoop]
  | succ n ih =>
    have hmore : ¬requested ≤ got.length := by omega
    cases queue with
    | nil => simp [readLoop, readPass, popParsedMsg, hmore]
    | cons msg queue =>
      have hpass : readPass requested 0 (elapsed got.length) got.length (msg :: queue ++ []) =
          some (msg, queue) := by
        simp [readPass, popParsedMsg, hmore]
      have hnext : (got ++ [msg]).length + n = requested := by
        rw [List.length_append, List.length_singleton]
        omega
      simp only [readLoop, hpass]
      rw [ih (got ++ [msg]) queue hnext, List.append_assoc]
      rfl

/-- What a read without a timeout and without arrivals should do: deliver from the front of
the queue, leave the rest, count, and say whether anything was there. -/
structure ReadsRight (ctx : ChannelContext) (channelID : UInt32) (requested : Nat)
    (r : J2534CannelloniClient × ReadResult) : Prop where
  delivered : r.2.delivered = ctx.msgQueue.take requested
  rest : r.1.channelMap.lookup channelID =
    some { ctx with msgQueue := ctx.msgQueue.drop requested }
  numMsgs : r.2.numMsgs = min requested ctx.msgQueue.length
  noError : 0 < r.2.delivered.length ∨ requested = 0 → r.2.retval = .statusNoError
  empty : 0 < requested → ctx.msgQueue = [] → r.2.retval = .errBufferEmpty

theorem readStatus_eq (readCount : Nat) : readStatus readCount = .statusNoError := by
  unfold readStatus
  rw [if_pos (Nat.eq_zero_or_pos readCount).symm]

/-- **When the status is right.**  Messages, queue and count always are; a read that finds
nothing reports success. -/
theorem readsRight_iff (client : J2534CannelloniClient) (channelID : UInt32) (requested : Nat)
    (elapsed : Nat → Nat) (ctx : ChannelContext)
    (h : client.channelMap.lookup channelID = some ctx) :
    ReadsRight ctx channelID requested
        (client.passThruReadMsgs channelID requested 0 elapsed fun _ => []) ↔
      requested = 0 ∨ ctx.msgQueue ≠ [] := by
  have hloop := readLoop_zero requested elapsed requested [] ctx.msgQueue (Nat.zero_add _)
  rw [List.nil_append] at hloop
  simp only [passThruReadMsgs, h, hloop, readStatus_eq]
  constructor
  · intro hright
    by_contra hnot
    obtain ⟨hpos, hqueue⟩ := not_or.1 hnot
    have hcode := hright.empty (Nat.pos_of_ne_zero hpos) (not_not.1 hqueue)
    cases hcode
  · intro hsome
    refine ⟨rfl, AList.lookup_insert _, List.length_take, fun _ => rfl, fun hpos hqueue => ?_⟩
    rcases hsome with h0 | hne
    · omega
    · exact absurd hqueue hne

theorem readsRight_iff_oneOpen :
    ∃ ctx, oneOpen.channelMap.lookup 20000 = some ctx ∧
      (ReadsRight ctx 20000 2 (oneOpen.passThruReadMsgs 20000 2 0 id fun _ => []) ↔
        2 = 0 ∨ ctx.msgQueue ≠ []) :=
  ⟨_, rfl, readsRight_iff oneOpen 20000 2 id _ rfl⟩

/-- One message asked for, none there, and the read reports success. -/
theorem readsRight_empty :
    ∃ ctx, oneOpen.channelMap.lookup 20000 = some ctx ∧
      ¬ReadsRight ctx 20000 1 (oneOpen.passThruReadMsgs 20000 1 0 id fun _ => []) := by
  refine ⟨_, rfl, fun h => ?_⟩
  have hcode := h.empty (by decide) rfl
  exact absurd hcode (by decide)

/-! ## With a timeout -/

/-- The clock readings of the loop, each taken at the head of a pass. -/
def readClock (requested : Nat) (timeout : UInt32) (elapsed : Nat → Nat)
    (arrivals : Nat → List PassthruMsg) :
    Nat → List PassthruMsg → List PassthruMsg → List Nat
  | 0, _, _ => []
  | n + 1, got, queue =>
    let queue := queue ++ arrivals got.length
    if requested ≤ got.length ∨ timeout = 0 then []
    else
      elapsed got.length ::
        match readPass requested timeout (elapsed got.length) got.length queue with
        | none => []
        | some (msg, queue) =>
          readClock requested timeout elapsed arrivals n (got ++ [msg]) queue

section
variable (requested : Nat) (timeout : UInt32) (elapsed : Nat → Nat)
  (arrivals : Nat → List PassthruMsg)

/-- How many messages came up to and in pass `k`, with the `queued` ones. -/
def available (queued k : Nat) : Nat :=
  queued + ((List.range (k + 1)).flatMap arrivals).length

/-- Pass `k`, after `k` messages, finds the clock before the deadline and a message. -/
def PassDelivers (queued k : Nat) : Prop :=
  elapsed k < timeout.toNat ∧ k < available arrivals queued k

/-- A pass of a loop that has not got all it was asked for ends it when it is late or finds
nothing. -/
theorem readPass_none_iff (hpos : timeout ≠ 0) (now : Nat) (got queue : List PassthruMsg)
    (h : got.length < requested) :
    readPass requested timeout now got.length queue = none ↔
      ¬(now < timeout.toNat ∧ 0 < queue.length) := by
  have hmore : ¬requested ≤ got.length := Nat.not_le.2 h
  unfold readPass
  rw [if_neg hmore, if_neg hpos]
  by_cases hlate : (timeout.toNat : Int) - now ≤ 0
  · rw [if_pos hlate]
    refine iff_of_true rfl fun h => ?_
    omega
  · rw [if_neg hlate]
    cases queue with
    | nil => exact iff_of_true rfl fun h => absurd h.2 (Nat.lt_irrefl 0)
    | cons msg queue =>
      have hclock : now < timeout.toNat := by omega
      exact iff_of_false (fun h => by cases h) fun h => h ⟨hclock, Nat.succ_pos _⟩

/-- Where the loop ends, and its last look at the clock. -/
structure ReadEnds (queued start : Nat) (delivered : List PassthruMsg) (clock : List Nat) :
    Prop where
  start_le : start ≤ delivered.length
  le : delivered.length ≤ requested
  delivers : ∀ k, start ≤ k → k < delivered.length → PassDelivers timeout elapsed arrivals queued k
  stops : delivered.length < requested →
    ¬PassDelivers timeout elapsed arrivals queued delivered.length
  clock : delivered.length < requested → clock.getLast? = some (elapsed delivered.length)

variable {requested timeout elapsed arrivals}

/-- The loop ends in this pass. -/
theorem ReadEnds.here {queued : Nat} {got : List PassthruMsg} (h : got.length < requested)
    (hnot : ¬PassDelivers timeout elapsed arrivals queued got.length) :
    ReadEnds requested timeout elapsed arrivals queued got.length got [elapsed got.length] where
  start_le := Nat.le_refl _
  le := Nat.le_of_lt h
  delivers _ hle hlt := absurd hlt (Nat.not_lt.2 hle)
  stops _ := hnot
  clock _ := rfl

/-- This pass delivers, and the loop goes on. -/
theorem ReadEnds.later {queued start : Nat} {delivered : List PassthruMsg} {clock : List Nat}
    (h : PassDelivers timeout elapsed arrivals queued start)
    (hends : ReadEnds requested timeout elapsed arrivals queued (start + 1) delivered clock) :
    ReadEnds requested timeout elapsed arrivals queued start delivered (elapsed start :: clock) where
  start_le := Nat.le_of_succ_le hends.start_le
  le := hends.le
  delivers := by
    intro k hle hk
    rcases Nat.eq_or_lt_of_le hle with rfl | hgt
    · exact h
    · exact hends.delivers k hgt hk
  stops := hends.stops
  clock := by
    intro hshort
    have hlast := hends.clock hshort
    rw [List.getLast?_cons, hlast]
    rfl

variable (requested timeout elapsed arrivals)

/-- **The loop, from any state of it.** -/
theorem readLoop_ends (hpos : timeout ≠ 0) (queued n : Nat) (got queue : List PassthruMsg)
    (hn : got.length + n = requested)
    (hqueue : got.length + (queue ++ arrivals got.length).length =
      available arrivals queued got.length) :
    ReadEnds requested timeout elapsed arrivals queued got.length
      (readLoop requested timeout elapsed arrivals n got queue).1
      (readClock requested timeout elapsed arrivals n got queue) := by
  induction n generalizing got queue with
  | zero =>
    have hfull : ¬got.length < requested := by omega
    simp only [readLoop]
    refine ⟨Nat.le_refl _, Nat.le_of_eq hn, fun k hle hlt => ?_, fun hlt => ?_, fun hlt => ?_⟩
    · exact absurd hlt (Nat.not_lt.2 hle)
    · exact absurd hlt hfull
    · exact absurd hlt hfull
  | succ n ih =>
    have hlt : got.length < requested := by omega
    have hnone := readPass_none_iff requested timeout hpos (elapsed got.length) got
      (queue ++ arrivals got.length) hlt
    have hlook : ¬(requested ≤ got.length ∨ timeout = 0) := by
      rintro (hle | h0)
      · omega
      · exact hpos h0
    have hdelivers : elapsed got.length < timeout.toNat ∧
        0 < (queue ++ arrivals got.length).length ↔
        PassDelivers timeout elapsed arrivals queued got.length := by
      rw [PassDelivers, ← hqueue]
      omega
    rw [hdelivers] at hnone
    cases hcase : readPass requested timeout (elapsed got.length) got.length
        (queue ++ arrivals got.length) with
    | none =>
      simp only [readLoop, readClock, hcase, if_neg hlook]
      exact ReadEnds.here hlt (hnone.1 hcase)
    | some p =>
      obtain ⟨msg, rest⟩ := p
      have hpass : PassDelivers timeout elapsed arrivals queued got.length := by
        by_contra hnot
        rw [hnone.2 hnot] at hcase
        cases hcase
      have hfront := (readPass_some hcase).2
      have hlen : (got ++ [msg]).length = got.length + 1 := by
        rw [List.length_append, List.length_singleton]
      have hnext : (got ++ [msg]).length + (rest ++ arrivals (got ++ [msg]).length).length =
          available arrivals queued (got ++ [msg]).length := by
        rw [hfront, List.length_cons, available] at hqueue
        rw [available, List.range_succ, List.flatMap_append, List.flatMap_singleton, hlen,
          List.length_append, List.length_append]
        omega
      have hends := ih (got ++ [msg]) rest (by omega) hnext
      rw [hlen] at hends
      simp only [readLoop, readClock, hcase, if_neg hlook]
      exact ReadEnds.later hpass hends

end

/-- What a read with a timeout should do: come back with fewer messages only when its last
look at the clock found the deadline reached; so every message that comes before the deadline
comes while the loop still looks. -/
structure HonoursTimeout (requested : Nat) (timeout : UInt32) (elapsed : Nat → Nat)
    (delivered : List PassthruMsg) (clock : List Nat) : Prop where
  deadline : delivered.length < requested → ∃ now, clock.getLast? = some now ∧ timeout.toNat ≤ now
  looking : delivered.length < requested →
    ∀ k, elapsed k < timeout.toNat → k < delivered.length

/-- **When the timeout is honoured.**  The loop leaves at the first empty queue, so: when
none of its passes before the deadline finds one. -/
theorem honoursTimeout_iff (client : J2534CannelloniClient) (channelID : UInt32) (requested : Nat)
    (timeout : UInt32) (elapsed : Nat → Nat) (arrivals : Nat → List PassthruMsg)
    (ctx : ChannelContext) (h : client.channelMap.lookup channelID = some ctx)
    (htimeout : 0 < timeout.toNat) (hclock : Monotone elapsed) :
    HonoursTimeout requested timeout elapsed
        (client.passThruReadMsgs channelID requested timeout elapsed arrivals).2.delivered
        (readClock requested timeout elapsed arrivals requested [] ctx.msgQueue) ↔
      ∀ k < requested, elapsed k < timeout.toNat →
        k < available arrivals ctx.msgQueue.length k := by
  have hpos : timeout ≠ 0 := by
    rintro rfl
    exact Nat.lt_irrefl 0 htimeout
  have hends := readLoop_ends requested timeout elapsed arrivals hpos ctx.msgQueue.length requested
    [] ctx.msgQueue (Nat.zero_add _) (by simp [available])
  have hdelivered : (client.passThruReadMsgs channelID requested timeout elapsed
      arrivals).2.delivered =
      (readLoop requested timeout elapsed arrivals requested [] ctx.msgQueue).1 := by
    simp only [passThruReadMsgs, h]
  rw [hdelivered]
  generalize readLoop requested timeout elapsed arrivals requested [] ctx.msgQueue = r at hends ⊢
  constructor
  · intro hhonours k hk hbefore
    by_contra hempty
    have hle : r.1.length ≤ k := by
      by_contra hlt
      exact hempty (hends.delivers k (Nat.zero_le _) (by omega)).2
    have hlook := hhonours.looking (by omega) k hbefore
    omega
  · intro hsome
    have hdeadline : r.1.length < requested → timeout.toNat ≤ elapsed r.1.length := by
      intro hshort
      by_contra hbefore
      have hlt : elapsed r.1.length < timeout.toNat := by omega
      exact hends.stops hshort ⟨hlt, hsome _ hshort hlt⟩
    refine ⟨fun hshort => ⟨_, hends.clock hshort, hdeadline hshort⟩, fun hshort k hbefore => ?_⟩
    by_contra hge
    have hlate := hclock (Nat.le_of_not_lt hge)
    have hreached := hdeadline hshort
    omega

theorem honoursTimeout_iff_oneOpen :
    ∃ ctx, oneOpen.channelMap.lookup 20000 = some ctx ∧
      (HonoursTimeout 2 5 id (oneOpen.passThruReadMsgs 20000 2 5 id fun _ => [.zero]).2.delivered
          (readClock 2 5 id (fun _ => [.zero]) 2 [] ctx.msgQueue) ↔
        ∀ k < 2, id k < (5 : UInt32).toNat →
          k < available (fun _ => [.zero]) ctx.msgQueue.length k) :=
  ⟨_, rfl, honoursTimeout_iff oneOpen 20000 2 5 id _ _ rfl (by decide) monotone_id⟩

/-- A second to wait; the message that comes within the first millisecond is not waited
for. -/
theorem honoursTimeout_early :
    let arrivals := fun k => if k = 1 then [PassthruMsg.zero] else []
    ∃ ctx, oneOpen.channelMap.lookup 20000 = some ctx ∧
      ¬HonoursTimeout 1 1000 id (oneOpen.passThruReadMsgs 20000 1 1000 id arrivals).2.delivered
        (readClock 1 1000 id arrivals 1 [] ctx.msgQueue) := by
  intro arrivals
  refine ⟨_, rfl, fun h => ?_⟩
  have hlook := h.looking (by decide) 1 (by decide)
  exact absurd hlook (by decide)

end J2534CannelloniClient

end J2534Oip
