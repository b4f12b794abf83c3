import TemplateDebug.Proofs.Dap.Chunks
import TemplateDebug.Proofs.Session.History
/-!
# Schedules of the relay

The relay is made of three tasks. A reader for each side reads messages from its stream and puts them into a channel
that has room for so many; a loop takes them out, lets each pass the session, and writes it to the other side. A
schedule is any order of their steps, each pass meeting a machine and a clock of its own. Of the channel it is only used
that it keeps what one reader puts in, in order.

In every schedule what a stream holds has passed, is in the channel or is still to be read, in this order; what has
passed did so in one sequence, and was written as it passed, except perhaps the last message.
-/

namespace TemplateDebug.Relay

open Session (Passage)

def Arrival.side : Arrival → Side
  | message side _ => side
  | ended side _ => side

def Arrival.message? : Arrival → Option Json
  | message _ m => some m
  | ended .. => none

/-- What a reader puts into the channel: what arrives, or that its stream cannot be read any more. -/
inductive Inbound where
  | arrival (arrival : Arrival)
  | broken (side : Side)

namespace Inbound

def side : Inbound → Side
  | arrival a => a.side
  | broken side => side

/-- What arrived from this side. -/
def from? (side : Side) : Inbound → Option Arrival
  | arrival a => if a.side = side then some a else none
  | broken _ => none

end Inbound

/-- A reader goes on with what is left of its stream, waits for room for an item, or reads no more. -/
inductive Reader where
  | reading (left : Dap.Input)
  | offering (item : Inbound) (after : Reader)
  | stopped (unread : List Arrival)

namespace Reader

/-- The reader after the next arrival of its stream; the end of the stream is the last. -/
def afterNext (left : Dap.Input) : Reader :=
  match Dap.readMessage left with
  | .ok (some (_, rest)) => .reading rest
  | _ => .stopped []

/-- The reader that has read the next arrival of its stream. -/
def next (side : Side) (left : Dap.Input) : Reader :=
  .offering (.arrival (nextArrival side left)) (.afterNext left)

/-- The reader of a stream that cannot be read any more. -/
def broken (side : Side) (left : Dap.Input) : Reader := .offering (.broken side) (.stopped (arrivals side left))

/-- What its stream holds that it has not put into the channel. -/
def unread (side : Side) : Reader → List Arrival
  | reading left => arrivals side left
  | offering item after => (item.from? side).toList ++ after.unread side
  | stopped unread => unread

/-- What it offers comes from its own side. -/
def Owns (side : Side) : Reader → Prop
  | offering item after => item.side = side ∧ after.Owns side
  | _ => True

end Reader

/-- Why the loop ended; a message that could not be written may have been written as a whole all the same. -/
inductive Outcome where
  | stream (side : Side) (ending : Ending)
  | unreadable (side : Side)
  | unwritable (receiver : Side) (message : Json) (whole : Bool)
  | drained

inductive Loop where
  | receiving
  | writing (receiver : Side) (message : Json)
  | ended (outcome : Outcome)

namespace Loop

/-- The loop after it has handled an arrival. -/
def handled (arrival : Arrival) : Action → Loop
  | .forward receiver message => .writing receiver message
  | .finish ending => .ended (.stream arrival.side ending)

/-- What has passed and is not written. -/
def unwritten : Loop → List (Side × Json)
  | writing receiver message => [(receiver, message)]
  | ended (.unwritable receiver message false) => [(receiver, message)]
  | _ => []

/-- The end of a stream, once it has ended the loop. -/
def ending (side : Side) : Loop → List Arrival
  | ended (.stream side' e) => if side' = side then [.ended side e] else []
  | _ => []

end Loop

/-- The tasks of the relay with what they share, and what has been written, each message with the side it went to. -/
structure Tasks where
  readers : Side → Reader
  queue : List Inbound
  session : Session
  loop : Loop
  written : List (Side × Json)

/-- How many items the channel has room for. -/
def capacity : Nat := 64

/-- A message that passed, as it goes to the other side. -/
def forwarded (p : Passage) : Side × Json := (p.side.opposite, p.out)

/-- The messages of one side that have passed, as they came. -/
def sentBy (side : Side) (passages : List Passage) : List Json :=
  (passages.filter fun p => p.side = side).map (·.message)

/-- The messages of one side that have passed, as they went on. -/
def imagesOf (side : Side) (passages : List Passage) : List Json :=
  (passages.filter fun p => p.side = side).map (·.out)

/-- The passage of an arrival, if it is a message. -/
def passageOf (s : Session) : Arrival → Action → List Passage
  | .message side message, .forward _ out => [⟨side, message, s.settings.enabled, out⟩]
  | _, _ => []

namespace Tasks

/-- Both readers go on, the channel is empty, and the loop waits for it. -/
def idle (left : Side → Dap.Input) (s : Session) (written : List (Side × Json)) : Tasks :=
  ⟨fun side => .reading (left side), [], s, .receiving, written⟩

def start (inputs : Side → Dap.Input) (s : Session) : Tasks := idle inputs s []

def setReader (t : Tasks) (side : Side) (r : Reader) : Tasks := { t with readers := Function.update t.readers side r }

/-- The messages that a side has got. -/
def writtenTo (t : Tasks) (side : Side) : List Json := (t.written.filter fun m => m.1 = side).map (·.2)

/-- What the stream of a side holds that the loop has not received. -/
def onTheWay (t : Tasks) (side : Side) : List Arrival :=
  t.queue.filterMap (Inbound.from? side) ++ (t.readers side).unread side

end Tasks

variable {machines : Set (Host (StateM Clock))} {machine : Host (StateM Clock)} {inputs : Side → Dap.Input}
  {s : Session} {passages new : List Passage} {t t' : Tasks} {side : Side}

/-- A step of one of the tasks, and the passage that it makes, if any. -/
inductive Step (machines : Set (Host (StateM Clock))) : Tasks → List Passage → Tasks → Prop where
  | reads {t : Tasks} {side : Side} {left : Dap.Input} (reader : t.readers side = .reading left) :
      Step machines t [] (t.setReader side (.next side left))
  | breaks {t : Tasks} {side : Side} {left : Dap.Input} (reader : t.readers side = .reading left) :
      Step machines t [] (t.setReader side (.broken side left))
  | sends {t : Tasks} {side : Side} {item : Inbound} {after : Reader} (reader : t.readers side = .offering item after)
      (room : t.queue.length < capacity) :
      Step machines t [] { t.setReader side after with queue := t.queue ++ [item] }
  /-- The loop handles the first arrival of its side in the channel. -/
  | handles {t : Tasks} {arrival : Arrival} {before after : List Inbound} {machine : Host (StateM Clock)}
      (loop : t.loop = .receiving) (queue : t.queue = before ++ .arrival arrival :: after)
      (first : ∀ x ∈ before, x.side ≠ arrival.side) (mem : machine ∈ machines) (clock : Clock) :
      Step machines t (passageOf t.session arrival (handle machine arrival t.session clock).1.1)
        { t with
          queue := before ++ after
          session := (handle machine arrival t.session clock).1.2
          loop := .handled arrival (handle machine arrival t.session clock).1.1 }
  | quits {t : Tasks} {side : Side} {before after : List Inbound} (loop : t.loop = .receiving)
      (queue : t.queue = before ++ .broken side :: after) (first : ∀ x ∈ before, x.side ≠ side) :
      Step machines t [] { t with queue := before ++ after, loop := .ended (.unreadable side) }
  /-- No reader is left that could put anything into the empty channel. -/
  | drains {t : Tasks} (loop : t.loop = .receiving) (queue : t.queue = [])
      (readers : ∀ side, ∃ unread, t.readers side = .stopped unread) :
      Step machines t [] { t with loop := .ended .drained }
  | writes {t : Tasks} {receiver : Side} {message : Json} (loop : t.loop = .writing receiver message) :
      Step machines t [] { t with loop := .receiving, written := t.written ++ [(receiver, message)] }
  | fails {t : Tasks} {receiver : Side} {message : Json} (loop : t.loop = .writing receiver message) (whole : Bool) :
      Step machines t [] { t with
        loop := .ended (.unwritable receiver message whole)
        written := t.written ++ if whole then [(receiver, message)] else [] }
  /-- A reader is stopped after the loop has ended, whatever it does. -/
  | aborts {t : Tasks} {outcome : Outcome} (loop : t.loop = .ended outcome) (side : Side) :
      Step machines t [] (t.setReader side (.stopped ((t.readers side).unread side)))

/-- The tasks at some moment of a schedule, after these passages. -/
inductive Scheduled (machines : Set (Host (StateM Clock))) (inputs : Side → Dap.Input) (s : Session) :
    List Passage → Tasks → Prop where
  | start : Scheduled machines inputs s [] (.start inputs s)
  | step {passages new : List Passage} {t t' : Tasks} (before : Scheduled machines inputs s passages t)
      (next : Step machines t new t') : Scheduled machines inputs s (passages ++ new) t'

/-- A session after these passages in a row. -/
inductive Passed (machines : Set (Host (StateM Clock))) (s : Session) : List Passage → Session → Prop where
  | start : Passed machines s [] s
  | next {passages : List Passage} {s' : Session} {machine : Host (StateM Clock)}
      (passed : Passed machines s passages s') (mem : machine ∈ machines) (side : Side) (message : Json)
      (clock : Clock) :
      Passed machines s
        (passages ++ [⟨side, message, s'.settings.enabled, (pass machine side message s' clock).1.1⟩])
        (pass machine side message s' clock).1.2

/-- What holds of sessions and their history holds in every schedule. -/
theorem Passed.met {history : List Passage} {s' : Session} (hs : Session.Met machines history s)
    (h : Passed machines s passages s') : Session.Met machines (passages.reverse ++ history) s' := by
  induction h with
  | start => exact hs
  | next _ hm side message clock ih =>
    rw [List.reverse_append]
    exact ih.passed hm side message clock

/-! ## Streams -/

/-- What is read next from a stream: a message, after which the reader goes on, or the end, after which it stops. -/
theorem nextArrival_cases (side : Side) (left : Dap.Input) :
    (∃ message rest, nextArrival side left = .message side message ∧ Reader.afterNext left = .reading rest ∧
      arrivals side left = .message side message :: arrivals side rest) ∨
    ∃ ending, nextArrival side left = .ended side ending ∧ Reader.afterNext left = .stopped [] ∧
      arrivals side left = [.ended side ending] := by
  unfold nextArrival Reader.afterNext arrivals
  rw [Dap.readAll_eq left]
  cases Dap.readMessage left with
  | error e => exact .inr ⟨_, rfl, rfl, rfl⟩
  | ok x =>
    cases x with
    | none => exact .inr ⟨_, rfl, rfl, rfl⟩
    | some x =>
      obtain ⟨message, rest⟩ := x
      exact .inl ⟨message, rest, rfl, rfl, rfl⟩

theorem side_nextArrival (side : Side) (left : Dap.Input) : (nextArrival side left).side = side := by
  rcases nextArrival_cases side left with ⟨message, rest, h, -⟩ | ⟨ending, h, -⟩ <;> rw [h] <;> rfl

/-- A reader that has read offers what it has read, and its stream holds nothing else. -/
theorem unread_next (side : Side) (left : Dap.Input) : (Reader.next side left).unread side = arrivals side left := by
  rw [Reader.next, Reader.unread, Inbound.from?, if_pos (side_nextArrival side left)]
  rcases nextArrival_cases side left with ⟨message, rest, h, hafter, hall⟩ | ⟨ending, h, hafter, hall⟩
  · rw [h, hafter, hall]
    rfl
  · rw [h, hafter, hall]
    rfl

theorem owns_next (side : Side) (left : Dap.Input) : (Reader.next side left).Owns side := by
  refine ⟨side_nextArrival side left, ?_⟩
  rcases nextArrival_cases side left with ⟨_, _, -, hafter, -⟩ | ⟨_, -, hafter, -⟩ <;> rw [hafter] <;> trivial

/-! ## What every step keeps -/

/-- How the tasks stand after these passages: nothing is lost, doubled or out of order. -/
structure InOrder (machines : Set (Host (StateM Clock))) (inputs : Side → Dap.Input) (s : Session)
    (passages : List Passage) (t : Tasks) : Prop where
  passed : Passed machines s passages t.session
  room : t.queue.length ≤ capacity
  owns : ∀ side, (t.readers side).Owns side
  written : passages.map forwarded = t.written ++ t.loop.unwritten
  arrived : ∀ side, arrivals side (inputs side) =
    (sentBy side passages).map (.message side) ++ t.loop.ending side ++ t.onTheWay side

theorem inOrder_start (machines : Set (Host (StateM Clock))) (inputs : Side → Dap.Input) (s : Session) :
    InOrder machines inputs s [] (.start inputs s) where
  passed := .start
  room := Nat.zero_le _
  owns _ := trivial
  written := rfl
  arrived _ := rfl

theorem from?_of_ne {item : Inbound} (h : item.side ≠ side) : item.from? side = none := by
  cases item with
  | arrival a => exact if_neg h
  | broken => rfl

/-! ### Readers -/

/-- A reader goes on, and the channel with it: what is on the way from each side stays. -/
theorem InOrder.moves (h : InOrder machines inputs s passages t) {r : Reader} {queue : List Inbound}
    (hown : r.Owns side) (hroom : queue.length ≤ capacity)
    (hway : ∀ side', queue.filterMap (Inbound.from? side') ++ (Function.update t.readers side r side').unread side' =
      t.onTheWay side') :
    InOrder machines inputs s passages { t.setReader side r with queue } where
  passed := h.passed
  room := hroom
  owns side' := by
    by_cases hs : side' = side
    · subst hs
      simpa [Tasks.setReader] using hown
    · simpa [Tasks.setReader, hs] using h.owns side'
  written := h.written
  arrived side' := by
    rw [h.arrived side', ← hway side']
    rfl

/-- A reader that does not touch the channel keeps what its stream holds. -/
theorem InOrder.setReader (h : InOrder machines inputs s passages t) {r : Reader} (hown : r.Owns side)
    (hunread : r.unread side = (t.readers side).unread side) :
    InOrder machines inputs s passages (t.setReader side r) := by
  refine h.moves hown h.room fun side' => ?_
  by_cases hs : side' = side
  · subst hs
    simp [Tasks.onTheWay, hunread]
  · simp [Tasks.onTheWay, hs]

/-- An item that is put into the channel stands behind all that its side put there before. -/
theorem InOrder.sends (h : InOrder machines inputs s passages t) {item : Inbound} {after : Reader}
    (hr : t.readers side = .offering item after) (hroom : t.queue.length < capacity) :
    InOrder machines inputs s passages { t.setReader side after with queue := t.queue ++ [item] } := by
  have hown := h.owns side
  rw [hr] at hown
  refine h.moves hown.2 (by simpa using Nat.succ_le_of_lt hroom) fun side' => ?_
  by_cases hs : side' = side
  · subst hs
    cases hi : item.from? side' <;> simp [Tasks.onTheWay, hr, Reader.unread, hi]
  · have hi : item.from? side' = none := from?_of_ne fun he => hs (he.symm.trans hown.1)
    simp [Tasks.onTheWay, hs, hi]

/-! ### The loop -/

/-- What is received from the channel is the first there of its side, and makes no difference to the other. -/
theorem filterMap_received {before after : List Inbound} {item : Inbound} (hfirst : ∀ x ∈ before, x.side ≠ item.side)
    (side : Side) : (before ++ item :: after).filterMap (Inbound.from? side) =
      (item.from? side).toList ++ (before ++ after).filterMap (Inbound.from? side) := by
  by_cases hs : item.side = side
  · have hnone : before.filterMap (Inbound.from? side) = [] := by
      refine List.filterMap_eq_nil_iff.2 fun x hx => from?_of_ne ?_
      rw [← hs]
      exact hfirst x hx
    cases hi : item.from? side <;> simp [hnone, hi]
  · simp [from?_of_ne hs]

/-- When the loop receives an item, all that passed is written, and the item is what comes next from its side. -/
theorem InOrder.received (h : InOrder machines inputs s passages t) {item : Inbound} {before after : List Inbound}
    (hl : t.loop = .receiving) (hq : t.queue = before ++ item :: after) (hfirst : ∀ x ∈ before, x.side ≠ item.side) :
    (before ++ after).length ≤ capacity ∧ passages.map forwarded = t.written ∧ ∀ side, arrivals side (inputs side) =
      (sentBy side passages).map (.message side) ++ ((item.from? side).toList ++
        Tasks.onTheWay { t with queue := before ++ after } side) := by
  have hroom := h.room
  have hwritten := h.written
  rw [hl] at hwritten
  refine ⟨?_, by simpa [Loop.unwritten] using hwritten, fun side => ?_⟩
  · simp only [hq, List.length_append, List.length_cons] at hroom ⊢
    omega
  · have harrived := h.arrived side
    rw [hl, Tasks.onTheWay, hq, filterMap_received hfirst, List.append_assoc] at harrived
    simpa [Loop.ending, Tasks.onTheWay] using harrived

theorem handle_message (machine : Host (StateM Clock)) (side : Side) (message : Json) (s : Session) (clock : Clock) :
    (handle machine (.message side message) s clock).1 =
      (.forward side.opposite (pass machine side message s clock).1.1, (pass machine side message s clock).1.2) := rfl

theorem handle_ended (machine : Host (StateM Clock)) (side : Side) (ending : Ending) (s : Session) (clock : Clock) :
    (handle machine (.ended side ending) s clock).1 = (.finish ending, s) := rfl

/-- An arrival that is handled has passed, or is the end of its stream. -/
theorem passageOf_or_ending (machine : Host (StateM Clock)) (s : Session) (arrival : Arrival) (clock : Clock)
    (side : Side) :
    (sentBy side (passageOf s arrival (handle machine arrival s clock).1.1)).map (.message side) ++
        (Loop.handled arrival (handle machine arrival s clock).1.1).ending side =
      (Inbound.from? side (.arrival arrival)).toList := by
  cases arrival with
  | message side' message =>
    rw [handle_message]
    by_cases hs : side' = side
    · subst hs
      simp [passageOf, sentBy, Loop.handled, Loop.ending, Inbound.from?, Arrival.side]
    · simp [passageOf, sentBy, Loop.handled, Loop.ending, Inbound.from?, Arrival.side, hs]
  | ended side' ending =>
    rw [handle_ended]
    by_cases hs : side' = side
    · subst hs
      simp [passageOf, sentBy, Loop.handled, Loop.ending, Inbound.from?, Arrival.side]
    · simp [passageOf, sentBy, Loop.handled, Loop.ending, Inbound.from?, Arrival.side, hs]

/-- What has passed is what the loop goes on to write. -/
theorem map_forwarded_passageOf (machine : Host (StateM Clock)) (s : Session) (arrival : Arrival) (clock : Clock) :
    (passageOf s arrival (handle machine arrival s clock).1.1).map forwarded =
      (Loop.handled arrival (handle machine arrival s clock).1.1).unwritten := by
  cases arrival <;> rfl

theorem Passed.handles {s' : Session} (h : Passed machines s passages s') (hm : machine ∈ machines) (arrival : Arrival)
    (clock : Clock) :
    Passed machines s (passages ++ passageOf s' arrival (handle machine arrival s' clock).1.1)
      (handle machine arrival s' clock).1.2 := by
  cases arrival with
  | message side message => exact h.next hm side message clock
  | ended side ending =>
    rw [handle_ended]
    simpa [passageOf] using h

theorem InOrder.handles (h : InOrder machines inputs s passages t) {arrival : Arrival} {before after : List Inbound}
    (hl : t.loop = .receiving) (hq : t.queue = before ++ .arrival arrival :: after)
    (hfirst : ∀ x ∈ before, x.side ≠ arrival.side) (hm : machine ∈ machines) (clock : Clock) :
    InOrder machines inputs s (passages ++ passageOf t.session arrival (handle machine arrival t.session clock).1.1)
      { t with
        queue := before ++ after
        session := (handle machine arrival t.session clock).1.2
        loop := .handled arrival (handle machine arrival t.session clock).1.1 } := by
  obtain ⟨hroom, hwritten, harrived⟩ := h.received hl hq hfirst
  refine ⟨h.passed.handles hm arrival clock, hroom, h.owns, ?_, fun side => ?_⟩
  · rw [List.map_append, hwritten, map_forwarded_passageOf]
  · rw [harrived side, ← passageOf_or_ending machine t.session arrival clock side]
    simp only [sentBy, List.filter_append, List.map_append, List.append_assoc]
    rfl

theorem InOrder.quits (h : InOrder machines inputs s passages t) {before after : List Inbound}
    (hl : t.loop = .receiving) (hq : t.queue = before ++ .broken side :: after) (hfirst : ∀ x ∈ before, x.side ≠ side) :
    InOrder machines inputs s passages { t with queue := before ++ after, loop := .ended (.unreadable side) } := by
  obtain ⟨hroom, hwritten, harrived⟩ := h.received hl hq hfirst
  refine ⟨h.passed, hroom, h.owns, ?_, fun side' => ?_⟩
  · simpa [Loop.unwritten] using hwritten
  · rw [harrived side']
    simp [Loop.ending, Tasks.onTheWay, Inbound.from?]

/-- A loop that goes on to write, or ends for another reason than a stream. -/
theorem InOrder.loops (h : InOrder machines inputs s passages t) {loop : Loop} {written : List (Side × Json)}
    (hending : ∀ side, loop.ending side = t.loop.ending side)
    (hwritten : written ++ loop.unwritten = t.written ++ t.loop.unwritten) :
    InOrder machines inputs s passages { t with loop, written } where
  passed := h.passed
  room := h.room
  owns := h.owns
  written := by rw [h.written, hwritten]
  arrived side := by
    have := h.arrived side
    rw [← hending side] at this
    exact this

theorem InOrder.step (h : InOrder machines inputs s passages t) (hstep : Step machines t new t') :
    InOrder machines inputs s (passages ++ new) t' := by
  cases hstep with
  | handles hl hq hfirst hm clock => exact h.handles hl hq hfirst hm clock
  | @reads side left hr =>
    rw [List.append_nil]
    exact h.setReader (owns_next side left) (by rw [hr, unread_next]; rfl)
  | @breaks side left hr =>
    rw [List.append_nil]
    exact h.setReader ⟨rfl, trivial⟩ (by rw [hr]; rfl)
  | sends hr hroom =>
    rw [List.append_nil]
    exact h.sends hr hroom
  | quits hl hq hfirst =>
    rw [List.append_nil]
    exact h.quits hl hq hfirst
  | drains hl =>
    rw [List.append_nil]
    exact h.loops (fun side => by rw [hl]; rfl) (by rw [hl]; rfl)
  | writes hl =>
    rw [List.append_nil]
    exact h.loops (fun side => by rw [hl]; rfl) (by rw [hl]; simp [Loop.unwritten])
  | fails hl whole =>
    rw [List.append_nil]
    exact h.loops (fun side => by rw [hl]; rfl) (by rw [hl]; cases whole <;> simp [Loop.unwritten])
  | aborts _ side =>
    rw [List.append_nil]
    exact h.setReader trivial rfl

theorem Scheduled.inOrder (h : Scheduled machines inputs s passages t) : InOrder machines inputs s passages t := by
  induction h with
  | start => exact inOrder_start machines inputs s
  | step _ hstep ih => exact ih.step hstep

/-! ## Arrivals in a given order

The relay as it handles arrivals one by one is a schedule: each arrival is read, put into the channel and handled before
the next is.
-/

theorem Scheduled.silent (h : Scheduled machines inputs s passages t) (hstep : Step machines t [] t') :
    Scheduled machines inputs s passages t' := by
  have := h.step hstep
  rwa [List.append_nil] at this

section

variable {left : Side → Dap.Input} {session : Session} {written : List (Side × Json)}

/-- The next arrival of a side, from its stream through the channel into the loop. -/
theorem Scheduled.arrives (h : Scheduled machines inputs s passages (.idle left session written)) (side : Side)
    (hm : machine ∈ machines) (clock : Clock) :
    Scheduled machines inputs s
      (passages ++ passageOf session (nextArrival side (left side))
        (handle machine (nextArrival side (left side)) session clock).1.1)
      ⟨Function.update (fun side => .reading (left side)) side (.afterNext (left side)), [],
        (handle machine (nextArrival side (left side)) session clock).1.2,
        .handled (nextArrival side (left side)) (handle machine (nextArrival side (left side)) session clock).1.1,
        written⟩ := by
  have hreader : (Tasks.idle left session written).readers side = .reading (left side) := rfl
  have hread := h.silent (.reads hreader)
  have hoffers : (Tasks.setReader (.idle left session written) side (.next side (left side))).readers side =
      .offering (.arrival (nextArrival side (left side))) (.afterNext (left side)) := Function.update_self ..
  have hsent : Scheduled machines inputs s passages
      ⟨Function.update (fun side => .reading (left side)) side (.afterNext (left side)),
        [.arrival (nextArrival side (left side))], session, .receiving, written⟩ := by
    simpa [Tasks.setReader, Tasks.idle] using hread.silent (.sends hoffers (Nat.succ_pos 63))
  have hfirst : ∀ x ∈ ([] : List Inbound), x.side ≠ (nextArrival side (left side)).side := fun x hx => by cases hx
  exact hsent.step (.handles rfl rfl hfirst hm clock)

/-- A message from its stream to the other side. -/
theorem Scheduled.relays (h : Scheduled machines inputs s passages (.idle left session written)) {message : Json}
    {rest : Dap.Input} (hnext : nextArrival side (left side) = .message side message)
    (hafter : Reader.afterNext (left side) = .reading rest) (hm : machine ∈ machines) (clock : Clock) :
    ∃ passages', Scheduled machines inputs s passages' (.idle (Function.update left side rest)
      (pass machine side message session clock).1.2
      (written ++ [(side.opposite, (pass machine side message session clock).1.1)])) := by
  have hreaders : (fun side' => Reader.reading (Function.update left side rest side')) =
      Function.update (fun side => .reading (left side)) side (.reading rest) :=
    Function.comp_update Reader.reading left side rest
  have hpassed := h.arrives side hm clock
  rw [hnext, hafter, handle_message, ← hreaders] at hpassed
  exact ⟨_, hpassed.silent (.writes rfl)⟩

/-- Handling arrivals one by one writes what a schedule writes, leaves the session as that does, and ends when it
does. -/
theorem scheduled_run (hm : machine ∈ machines) (merged : List Arrival) :
    ∀ {passages : List Passage} {left : Side → Dap.Input} {session : Session} {written : List (Side × Json)}
      (clock : Clock), Scheduled machines inputs s passages (.idle left session written) →
      (∀ side, merged.filter (·.side = side) <+: arrivals side (left side)) →
      ∃ passages' t, Scheduled machines inputs s passages' t ∧
        t.written = written ++ (run machine session merged clock).1.forwarded ∧
        t.session = (run machine session merged clock).1.session ∧
        ∀ ending, (run machine session merged clock).1.ending = some ending →
          ∃ side, .ended side ending ∈ merged ∧ t.loop = .ended (.stream side ending) := by
  induction merged with
  | nil =>
    intro passages left session written clock h _
    exact ⟨passages, _, h, (List.append_nil _).symm, rfl, fun _ he => by cases he⟩
  | cons a merged ih =>
    intro passages left session written clock h hmerged
    obtain ⟨side, hside⟩ : ∃ side, a.side = side := ⟨_, rfl⟩
    have ha := hmerged side
    rw [List.filter_cons_of_pos (by simpa using hside)] at ha
    rcases nextArrival_cases side (left side) with ⟨message, rest, harr, hafter, hall⟩ | ⟨ending, harr, -, hall⟩
    · rw [hall] at ha
      obtain ⟨rfl, htail⟩ := List.cons_prefix_cons.1 ha
      obtain ⟨passages', hwritten⟩ := h.relays harr hafter hm clock
      -- the other side is as it was, and this one goes on behind the message
      have hleft : ∀ side', merged.filter (·.side = side') <+:
          arrivals side' (Function.update left side rest side') := by
        intro side'
        by_cases hs : side' = side
        · subst hs
          simpa using htail
        · have hother := hmerged side'
          rw [List.filter_cons_of_neg (by simp [Arrival.side, Ne.symm hs])] at hother
          simpa [hs] using hother
      obtain ⟨passages'', t, hreached, hout, hsession, hending⟩ :=
        ih (pass machine side message session clock).2 hwritten hleft
      refine ⟨passages'', t, hreached, ?_, hsession, fun ending he => ?_⟩
      · rw [hout, List.append_assoc]
        rfl
      · obtain ⟨side', hmem, hl⟩ := hending ending he
        exact ⟨side', List.mem_cons_of_mem _ hmem, hl⟩
    · rw [hall] at ha
      obtain ⟨rfl, -⟩ := List.cons_prefix_cons.1 ha
      have hended := h.arrives side hm clock
      rw [harr, handle_ended] at hended
      refine ⟨_, _, hended, (List.append_nil _).symm, rfl, ?_⟩
      rintro _ ⟨⟩
      exact ⟨side, List.mem_cons_self, rfl⟩

end

/-! ## What the streams become -/

/-- How a stream ends. -/
def endingOf (input : Dap.Input) : Ending :=
  match (Dap.readAll input).2 with
  | some e => .failed e
  | none => .closed

theorem arrivals_eq (side : Side) (input : Dap.Input) :
    arrivals side input = (Dap.readAll input).1.map (.message side) ++ [.ended side (endingOf input)] := rfl

theorem filterMap_message? (side : Side) (messages : List Json) :
    (messages.map (Arrival.message side)).filterMap Arrival.message? = messages := by
  induction messages with
  | nil => rfl
  | cons m messages ih => simp only [List.map_cons, List.filterMap_cons, Arrival.message?, ih]

/-- The messages that a stream holds and the loop has not received. -/
def Tasks.coming (t : Tasks) (side : Side) : List Json := (t.onTheWay side).filterMap Arrival.message?

/-- What has passed from a side is what its stream holds, but for what is to come. -/
theorem InOrder.messages (h : InOrder machines inputs s passages t) (side : Side) :
    (Dap.readAll (inputs side)).1 = sentBy side passages ++ t.coming side := by
  have hall := congrArg (List.filterMap Arrival.message?) (h.arrived side)
  have hending : (t.loop.ending side).filterMap Arrival.message? = [] := by
    unfold Loop.ending
    split
    · split <;> rfl
    · rfl
  simp only [arrivals_eq, List.filterMap_append, filterMap_message?, hending, List.append_nil] at hall
  exact (List.append_nil _).symm.trans hall

theorem length_unwritten_le (loop : Loop) : loop.unwritten.length ≤ 1 := by
  unfold Loop.unwritten
  split <;> simp

/-- What has been written is what passed first, and all of it but perhaps one message. -/
theorem InOrder.exists_done (h : InOrder machines inputs s passages t) :
    ∃ done, done <+: passages ∧ passages.length ≤ done.length + 1 ∧ t.written = done.map forwarded := by
  have hlength : passages.length = t.written.length + t.loop.unwritten.length := by
    simpa using congrArg List.length h.written
  have hle := length_unwritten_le t.loop
  refine ⟨passages.take t.written.length, List.take_prefix _ _, ?_, ?_⟩
  · rw [List.length_take]
    omega
  · rw [List.map_take, h.written, List.take_left]

theorem prefix_sentBy {done : List Passage} (h : done <+: passages) (side : Side) :
    sentBy side done <+: sentBy side passages := (h.filter _).map _

/-- What goes to the other side of a side came from that. -/
theorem filter_forwarded (side : Side) (passages : List Passage) :
    ((passages.map forwarded).filter fun m => m.1 = side.opposite).map (·.2) = imagesOf side passages := by
  have hside : ∀ p : Passage, decide ((forwarded p).1 = side.opposite) = decide (p.side = side) := by
    rintro ⟨side', _, _, _⟩
    cases side' <;> cases side <;> rfl
  rw [List.filter_map, List.map_map, imagesOf]
  simp only [Function.comp_def, hside]
  rfl

/-- Nothing stands behind the end of a stream. -/
theorem eq_of_ended {sent all : List Json} {e e' : Ending} {rest : List Arrival}
    (h : all.map (.message side) ++ [.ended side e] = sent.map (.message side) ++ .ended side e' :: rest) :
    sent = all ∧ e' = e := by
  induction all generalizing sent with
  | nil =>
    cases sent with
    | nil =>
      cases h
      exact ⟨rfl, rfl⟩
    | cons m sent => cases h
  | cons m all ih =>
    cases sent with
    | nil => cases h
    | cons m' sent =>
      obtain ⟨hm, hrest⟩ := List.cons.inj h
      cases hm
      obtain ⟨rfl, rfl⟩ := ih hrest
      exact ⟨rfl, rfl⟩

/-- In every schedule: the passages make one sequence for the session; all of them were written in order, or all but the
last, each side getting what became of the first messages of the other; those from a side are what its stream holds,
without what is in the channel or not read yet; and when the end of a stream ends the loop, all that the stream holds
has been written. -/
theorem relayed_in_order (h : Scheduled machines inputs s passages t) :
    Passed machines s passages t.session ∧ t.queue.length ≤ capacity ∧
      (∃ done, done <+: passages ∧ passages.length ≤ done.length + 1 ∧ t.written = done.map forwarded ∧
        ∀ side, t.writtenTo side.opposite = imagesOf side done ∧ sentBy side done <+: (Dap.readAll (inputs side)).1) ∧
      (∀ side, (Dap.readAll (inputs side)).1 = sentBy side passages ++ t.coming side) ∧
      ∀ side ending, t.loop = .ended (.stream side ending) →
        t.written = passages.map forwarded ∧ sentBy side passages = (Dap.readAll (inputs side)).1 ∧
          ending = endingOf (inputs side) := by
  have hi := h.inOrder
  refine ⟨hi.passed, hi.room, ?_, hi.messages, fun side ending hl => ?_⟩
  · obtain ⟨done, hdone, hlength, hwritten⟩ := hi.exists_done
    refine ⟨done, hdone, hlength, hwritten, fun side => ⟨?_, (prefix_sentBy hdone side).trans ?_⟩⟩
    · rw [Tasks.writtenTo, hwritten, filter_forwarded]
    · rw [hi.messages side]
      exact List.prefix_append _ _
  · have hwritten := hi.written
    have harrived := hi.arrived side
    rw [hl] at hwritten harrived
    simp only [arrivals_eq, Loop.ending, if_true, List.append_assoc, List.singleton_append] at harrived
    obtain ⟨hsent, hending⟩ := eq_of_ended harrived
    exact ⟨by simpa [Loop.unwritten] using hwritten.symm, hsent, hending⟩

namespace Sample

open Session.Sample

/-- A request from the client, and something from the adapter that no one waits for. -/
def streams : Side → Dap.Input
  | .client => [Dap.frame (request 1 "/ws/a.jsp" [1])]
  | .adapter => [Dap.frame .null]

/-- The order in which the relay handles what arrives. -/
def merged : List Arrival := [.message .client (request 1 "/ws/a.jsp" [1]), .ended .client .closed]

end Sample

/-- The client sends a request and closes its stream: the relay ends after the adapter has got the request. -/
theorem relayed_in_order_request :
    ∃ passages t, Scheduled {Session.Sample.servlet.tickingHost} Sample.streams (Session.Sample.session 0) passages t ∧
      t.loop = .ended (.stream .client .closed) ∧ t.written = passages.map forwarded ∧
      sentBy .client passages = [Session.Sample.request 1 "/ws/a.jsp" [1]] ∧
      t.written.map (fun m => (m.1, (m.2.get? "arguments").bind fun a => a.get? "breakpoints")) =
        [(.adapter, some (.arr [.obj [("line", .int 2)]]))] := by
  have hread : Dap.readAll (Sample.streams .client) = ([Session.Sample.request 1 "/ws/a.jsp" [1]], none) := by
    decide +kernel
  have hmerged : ∀ side, Sample.merged.filter (·.side = side) <+: arrivals side (Sample.streams side) := by
    rintro (_ | _)
    · rw [arrivals, hread]
      exact List.prefix_refl _
    · exact List.nil_prefix
  obtain ⟨passages, t, h, hwritten, -, hending⟩ := scheduled_run (Set.mem_singleton Session.Sample.servlet.tickingHost)
    Sample.merged (Stream'.const 0) (.start (s := Session.Sample.session 0)) hmerged
  obtain ⟨side, hside, hl⟩ := hending .closed (by decide +kernel)
  have hclient : side = .client := by
    cases side with
    | client => rfl
    | adapter => exact absurd hside (by decide +kernel)
  subst hclient
  obtain ⟨hall, hsent, -⟩ := (relayed_in_order h).2.2.2.2 .client .closed hl
  refine ⟨passages, t, h, hl, hall, ?_, ?_⟩
  · rw [hsent, hread]
  · rw [hwritten]
    decide +kernel

end TemplateDebug.Relay
