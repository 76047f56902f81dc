import Mathlib.Data.List.Forall2
import Mathlib.Data.List.Induction
import Exynos9810.Library.MessageQueue
import Exynos9810.Sensors.RoundTrip

/-!
# `EventMessageQueueWrapperAidl.h`: events on their way to the framework

The proxy of the HAL posts HIDL events.  They are converted into a buffer of the wrapper
and go from there into the message queue, whose other end the framework reads.  The queue
and the value that an event is constructed with are not part of the repository and stay
parameters.  `none` is an abort of a conversion or an access behind the end of the buffer.
-/
namespace Exynos9810.Sensors

open MessageQueue

/-- The wrapper, with `maxEvents` for `MAX_RECEIVE_BUFFER_EVENT_COUNT`. -/
structure EventMessageQueueWrapperAidl (Q : Type) (maxEvents : Nat) where
  mQueue : Q
  mIntermediateEventBuffer : List AidlEvent
  size : mIntermediateEventBuffer.length = maxEvents

/-- The loop of the writers, from index `i` on. -/
def convertLoop (buffer : List AidlEvent) (i : Nat) : List HidlEvent → Option (List AidlEvent)
  | [] => some buffer
  | event :: events => do
    let slot ← buffer[i]?
    let converted ← convertToAidlEvent event slot
    convertLoop (buffer.set i converted) (i + 1) events

/-- The loop of `read`: `events` is the array of the caller. -/
def convertBackLoop (buffer : List AidlEvent) (i : Nat) :
    List HidlEvent → Option (List HidlEvent)
  | [] => some []
  | event :: events => do
    let slot ← buffer[i]?
    let converted ← convertToHidlEvent slot event
    let rest ← convertBackLoop buffer (i + 1) events
    return converted :: rest

theorem length_convertLoop {buffer buffer' : List AidlEvent} {i : Nat} {events : List HidlEvent}
    (h : convertLoop buffer i events = some buffer') : buffer'.length = buffer.length := by
  induction events generalizing buffer i with
  | nil =>
    cases h
    rfl
  | cons event events ih =>
    obtain ⟨slot, -, h⟩ := Option.bind_eq_some_iff.mp h
    obtain ⟨converted, -, h⟩ := Option.bind_eq_some_iff.mp h
    rw [ih h, List.length_set]

namespace EventMessageQueueWrapperAidl

variable {Q : Type} {maxEvents : Nat} (ops : Operations Q AidlEvent)

/-- The constructor.  `fresh` is an event as it is constructed. -/
def init (mQueue : Q) (fresh : AidlEvent) : EventMessageQueueWrapperAidl Q maxEvents :=
  ⟨mQueue, List.replicate maxEvents fresh, List.length_replicate⟩

def fill (w : EventMessageQueueWrapperAidl Q maxEvents) (events : List HidlEvent) :
    Option (EventMessageQueueWrapperAidl Q maxEvents) :=
  match h : convertLoop w.mIntermediateEventBuffer 0 events with
  | some buffer => some ⟨w.mQueue, buffer, (length_convertLoop h).trans w.size⟩
  | none => none

/-- `mQueue->write` of the first events of the buffer. -/
def commit (w : EventMessageQueueWrapperAidl Q maxEvents) (count : Nat) :
    Bool × EventMessageQueueWrapperAidl Q maxEvents :=
  let (success, mQueue) := ops.write w.mQueue (w.mIntermediateEventBuffer.take count)
  (success, { w with mQueue })

def take (w : EventMessageQueueWrapperAidl Q maxEvents) (count : Nat) :
    List AidlEvent × EventMessageQueueWrapperAidl Q maxEvents :=
  let (events, mQueue) := ops.read w.mQueue count
  (events.getD [], { w with mQueue })

def write (w : EventMessageQueueWrapperAidl Q maxEvents) (events : List HidlEvent) :
    Option (Bool × EventMessageQueueWrapperAidl Q maxEvents) :=
  (w.fill events).map (commit ops · events.length)

/-- `read` into the array `events` of the caller.  A read of the queue that fails stores
nothing, but the buffer is converted all the same. -/
def read (w : EventMessageQueueWrapperAidl Q maxEvents) (events : List HidlEvent) :
    Option (Bool × List HidlEvent × EventMessageQueueWrapperAidl Q maxEvents) :=
  match ops.read w.mQueue events.length with
  | (some items, mQueue) =>
    if hlength : items.length ≤ maxEvents then do
      let buffer := items ++ w.mIntermediateEventBuffer.drop items.length
      let converted ← convertBackLoop buffer 0 events
      return (true, converted, ⟨mQueue, buffer, by
        rw [List.length_append, List.length_drop, w.size]
        omega⟩)
    else none
  | (none, mQueue) => do
    let converted ← convertBackLoop w.mIntermediateEventBuffer 0 events
    return (false, converted, { w with mQueue })

end EventMessageQueueWrapperAidl

section Loops

variable {buffer buffer' : List AidlEvent} {i : Nat}

/-- The AIDL event says the same as the HIDL event. -/
structure Carries (event : HidlEvent) (aidlEvent : AidlEvent) : Prop where
  timestamp : aidlEvent.timestamp = event.timestamp
  sensorHandle : aidlEvent.sensorHandle = event.sensorHandle
  sensorType : aidlEvent.sensorType = event.sensorType
  handled : event.reading.isSome = true
  reading : aidlEvent.reading = event.reading

theorem convertToAidlEvent_isSome (event : HidlEvent) (slot : AidlEvent) :
    (convertToAidlEvent event slot).isSome = event.reading.isSome := by
  rw [convertToAidlEvent, HidlEvent.reading, Option.isSome_map, Option.isSome_map]
  cases SensorType.ofInt32 event.sensorType with
  | unnamed value =>
    simp only [aidlPayload, SensorType.format]
    split_ifs <;> rfl
  | _ => rfl

theorem carries_of_convert {event : HidlEvent} {slot converted : AidlEvent}
    (h : convertToAidlEvent event slot = some converted) : Carries event converted := by
  have hsome : event.reading.isSome = true := by
    rw [← convertToAidlEvent_isSome event slot, h]
    rfl
  obtain ⟨reading, hreading⟩ := Option.isSome_iff_exists.mp hsome
  obtain ⟨event', hconverted, htime, hhandle, htype, hevent⟩ :=
    convertToAidlEvent_reading slot hreading
  cases hconverted.symm.trans h
  exact ⟨htime, hhandle, htype, hsome, hevent.trans hreading.symm⟩

theorem reading_of_carries {events : List HidlEvent} {converted : List AidlEvent}
    (h : List.Forall₂ Carries events converted) :
    ∀ event ∈ converted, event.reading.isSome = true := by
  induction h with
  | nil => simp
  | cons hcarries _ ih =>
    refine List.forall_mem_cons.mpr ⟨?_, ih⟩
    rw [hcarries.reading]
    exact hcarries.handled

theorem convertLoop_spec {events : List HidlEvent} (hi : i ≤ buffer.length)
    (h : convertLoop buffer i events = some buffer') :
    ∃ converted, List.Forall₂ Carries events converted ∧
      buffer' = buffer.take i ++ converted ++ buffer.drop (i + events.length) := by
  induction events generalizing buffer i with
  | nil =>
    cases h
    exact ⟨[], .nil, by simp⟩
  | cons event events ih =>
    obtain ⟨slot, hslot, h⟩ := Option.bind_eq_some_iff.mp h
    obtain ⟨converted, hconverted, h⟩ := Option.bind_eq_some_iff.mp h
    obtain ⟨hlt, -⟩ := List.getElem?_eq_some_iff.mp hslot
    obtain ⟨rest, hrest, rfl⟩ := ih (by rw [List.length_set]; exact hlt) h
    refine ⟨converted :: rest, .cons (carries_of_convert hconverted) hrest, ?_⟩
    have htake : (buffer.set i converted).take (i + 1) = buffer.take i ++ [converted] := by
      rw [List.take_add_one, List.take_set_of_le (Nat.le_refl i)]
      simp [hlt]
    rw [htake, List.drop_set_of_lt (by omega), List.length_cons]
    simp [Nat.add_comm, Nat.add_left_comm]

theorem convertLoop_isSome (hi : i ≤ buffer.length) (events : List HidlEvent) :
    (convertLoop buffer i events).isSome ↔
      i + events.length ≤ buffer.length ∧ ∀ event ∈ events, event.reading.isSome := by
  induction events generalizing buffer i with
  | nil => simp [convertLoop, hi]
  | cons event events ih =>
    rw [convertLoop]
    by_cases hlt : i < buffer.length
    · rw [List.getElem?_eq_getElem hlt]
      simp only [Option.bind_eq_bind, Option.bind_some]
      cases hconverted : convertToAidlEvent event buffer[i] with
      | none =>
        have hevent : event.reading.isSome = false := by
          rw [← convertToAidlEvent_isSome event buffer[i], hconverted]
          rfl
        simp [hevent]
      | some converted =>
        have hevent := (carries_of_convert hconverted).handled
        have hset : i + 1 ≤ (buffer.set i converted).length := by
          rw [List.length_set]
          exact hlt
        rw [Option.bind_some, ih hset, List.length_set, List.length_cons, List.forall_mem_cons]
        simp [hevent]
        omega
    · rw [List.getElem?_eq_none (by omega)]
      simp
      omega

end Loops

/-- What happens to the queue: the proxy writes, somebody reads through the wrapper, or the
framework reads at the other end.  A blocking write is a write once the framework has read,
`reads` times, while it waits. -/
inductive Operation where
  | write (events : List HidlEvent)
  | writeBlocking (events : List HidlEvent) (reads : List Nat)
  | read (events : List HidlEvent)
  | take (count : Nat)

/-- The wrapper with the events of the writes that succeeded, the events that have been read,
and the largest number of events that the buffer has held at once. -/
structure Exchange (Q : Type) (maxEvents : Nat) where
  wrapper : EventMessageQueueWrapperAidl Q maxEvents
  accepted : List HidlEvent
  received : List AidlEvent
  filled : Nat

namespace Exchange

variable {Q : Type} {maxEvents : Nat} (ops : Operations Q AidlEvent)

def init (mQueue : Q) (fresh : AidlEvent) : Exchange Q maxEvents :=
  ⟨.init mQueue fresh, [], [], 0⟩

def posted (s : Exchange Q maxEvents) (events : List HidlEvent)
    (result : Bool × EventMessageQueueWrapperAidl Q maxEvents) : Exchange Q maxEvents :=
  { s with
    wrapper := result.2
    accepted := if result.1 then s.accepted ++ events else s.accepted }

def fills (s : Exchange Q maxEvents) (count : Nat) : Exchange Q maxEvents :=
  { s with filled := max s.filled count }

def take (s : Exchange Q maxEvents) (count : Nat) : Exchange Q maxEvents :=
  { s with
    wrapper := (s.wrapper.take ops count).2
    received := s.received ++ (s.wrapper.take ops count).1 }

def step (s : Exchange Q maxEvents) : Operation → Option (Exchange Q maxEvents)
  | .write events => (s.wrapper.write ops events).map ((s.fills events.length).posted events)
  | .writeBlocking events reads =>
    (s.wrapper.fill events).map fun w =>
      let s := reads.foldl (take ops) { s.fills events.length with wrapper := w }
      s.posted events (s.wrapper.commit ops events.length)
  | .read events =>
    match s.wrapper.read ops events with
    | some (true, _, w) =>
      some { s.fills events.length with
        wrapper := w
        received := s.received ++ w.mIntermediateEventBuffer.take events.length }
    | some (false, _, w) => some { s with wrapper := w }
    | none => none
  | .take count => some (s.take ops count)

def run (mQueue : Q) (fresh : AidlEvent) (operations : List Operation) :
    Option (Exchange Q maxEvents) :=
  operations.foldlM (step ops) (init mQueue fresh)

end Exchange

section Slots

variable {fresh : AidlEvent} {filled : Nat} {buffer converted : List AidlEvent}

/-- The slots that were filled hold events that can be read, the others their first value. -/
def Slots (fresh : AidlEvent) (filled : Nat) (buffer : List AidlEvent) : Prop :=
  ∀ i slot, buffer[i]? = some slot →
    if i < filled then slot.reading.isSome = true else slot = fresh

theorem slots_fresh (fresh : AidlEvent) (maxEvents : Nat) :
    Slots fresh 0 (List.replicate maxEvents fresh) := by
  intro i slot hslot
  rw [if_neg (Nat.not_lt_zero i)]
  exact List.eq_of_mem_replicate (List.mem_of_getElem? hslot)

theorem Slots.overwrite (h : Slots fresh filled buffer)
    (hconverted : ∀ event ∈ converted, event.reading.isSome = true) :
    Slots fresh (max filled converted.length) (converted ++ buffer.drop converted.length) := by
  intro i slot hslot
  by_cases hi : i < converted.length
  · rw [List.getElem?_append_left hi] at hslot
    rw [if_pos (lt_max_of_lt_right hi)]
    exact hconverted slot (List.mem_of_getElem? hslot)
  · have hle := Nat.le_of_not_lt hi
    rw [List.getElem?_append_right hle, List.getElem?_drop, Nat.add_sub_cancel' hle] at hslot
    have hold := h i slot hslot
    by_cases hfilled : i < filled
    · rw [if_pos hfilled] at hold
      rw [if_pos (lt_max_of_lt_left hfilled)]
      exact hold
    · rw [if_neg hfilled] at hold
      rw [if_neg (by omega)]
      exact hold

end Slots

section Back

variable {buffer : List AidlEvent} {i : Nat}

theorem convertToHidlEvent_isSome (slot : AidlEvent) (event : HidlEvent) :
    (convertToHidlEvent slot event).isSome = slot.reading.isSome := by
  rw [convertToHidlEvent, AidlEvent.reading, Option.isSome_map]
  cases SensorType.ofInt32 slot.sensorType with
  | unnamed value =>
    simp only [hidlPayload, SensorType.format]
    split_ifs <;> simp [aidlReading]
  | _ => simp [hidlPayload, SensorType.format, aidlReading]

theorem carries_of_convertBack {slot : AidlEvent} {event converted : HidlEvent}
    (h : convertToHidlEvent slot event = some converted) : Carries converted slot := by
  have hsome : slot.reading.isSome = true := by
    rw [← convertToHidlEvent_isSome slot event, h]
    rfl
  obtain ⟨reading, hreading⟩ := Option.isSome_iff_exists.mp hsome
  obtain ⟨event', hconverted, htime, hhandle, htype, hevent⟩ :=
    convertToHidlEvent_reading event hreading
  cases hconverted.symm.trans h
  exact ⟨htime.symm, hhandle.symm, htype.symm, by rw [hevent]; rfl, hreading.trans hevent.symm⟩

theorem convertBackLoop_carries {events converted : List HidlEvent}
    (h : convertBackLoop buffer i events = some converted) :
    List.Forall₂ Carries converted ((buffer.drop i).take events.length) := by
  induction events generalizing i converted with
  | nil =>
    cases h
    simp
  | cons event events ih =>
    obtain ⟨slot, hslot, h⟩ := Option.bind_eq_some_iff.mp h
    obtain ⟨first, hfirst, h⟩ := Option.bind_eq_some_iff.mp h
    obtain ⟨rest, hrest, h⟩ := Option.bind_eq_some_iff.mp h
    cases h
    obtain ⟨hlt, rfl⟩ := List.getElem?_eq_some_iff.mp hslot
    rw [List.drop_eq_getElem_cons hlt, List.length_cons, List.take_succ_cons]
    exact .cons (carries_of_convertBack hfirst) (ih hrest)

theorem convertBackLoop_isSome (events : List HidlEvent) :
    (convertBackLoop buffer i events).isSome = true ↔
      ∀ j < events.length, ∃ slot, buffer[i + j]? = some slot ∧ slot.reading.isSome = true := by
  induction events generalizing i with
  | nil => simp [convertBackLoop]
  | cons event events ih =>
    rw [convertBackLoop, List.length_cons, Nat.forall_lt_succ_left]
    simp only [Nat.add_zero, ← Nat.add_assoc, Nat.add_right_comm i _ 1, ← ih (i := i + 1)]
    cases hslot : buffer[i]? with
    | none => simp
    | some slot =>
      have hconvert := convertToHidlEvent_isSome slot event
      cases hfirst : convertToHidlEvent slot event with
      | none =>
        rw [hfirst] at hconvert
        simp [hfirst, ← hconvert]
      | some first =>
        rw [hfirst] at hconvert
        cases convertBackLoop buffer (i + 1) events <;> simp [hfirst, ← hconvert]

end Back

namespace Exchange

variable {Q : Type} {maxEvents : Nat} {ops : Operations Q AidlEvent} {waiting : Q → List AidlEvent}
  {fresh : AidlEvent} {s s' : Exchange Q maxEvents}

/-- The order of the events, given which of them wait in a queue. -/
def Ordered (waiting : Q → List AidlEvent) (s : Exchange Q maxEvents) : Prop :=
  List.Forall₂ Carries s.accepted (s.received ++ waiting s.wrapper.mQueue)

structure Kept (waiting : Q → List AidlEvent) (fresh : AidlEvent) (s : Exchange Q maxEvents) :
    Prop where
  order : s.Ordered waiting
  slots : Slots fresh s.filled s.wrapper.mIntermediateEventBuffer

theorem kept_init {mQueue : Q} (hempty : waiting mQueue = []) :
    Kept waiting fresh (init mQueue fresh : Exchange Q maxEvents) := by
  refine ⟨?_, slots_fresh fresh maxEvents⟩
  change List.Forall₂ Carries [] ([] ++ waiting mQueue)
  rw [hempty]
  exact .nil

theorem fill_spec {w w' : EventMessageQueueWrapperAidl Q maxEvents} {events : List HidlEvent}
    (h : w.fill events = some w') :
    w'.mQueue = w.mQueue ∧ ∃ converted, List.Forall₂ Carries events converted ∧
      w'.mIntermediateEventBuffer =
        converted ++ w.mIntermediateEventBuffer.drop converted.length := by
  unfold EventMessageQueueWrapperAidl.fill at h
  split at h
  next buffer hbuffer =>
    cases h
    obtain ⟨converted, hcarries, hbuffer⟩ := convertLoop_spec (Nat.zero_le _) hbuffer
    refine ⟨rfl, converted, hcarries, ?_⟩
    change buffer = _
    rw [hbuffer, ← hcarries.length_eq]
    simp
  next => cases h

theorem read_append (hfifo : Fifo ops waiting) (q : Q) (count : Nat) :
    (ops.read q count).1.getD [] ++ waiting (ops.read q count).2 = waiting q := by
  cases hread : (ops.read q count).1 with
  | some batch => exact (hfifo.read_some q count batch hread).2
  | none => exact hfifo.read_none q count hread

theorem Kept.take (hfifo : Fifo ops waiting) (h : Kept waiting fresh s) (count : Nat) :
    Kept waiting fresh (s.take ops count) := by
  refine ⟨?_, h.slots⟩
  let taken := ops.read s.wrapper.mQueue count
  change List.Forall₂ Carries s.accepted (s.received ++ taken.1.getD [] ++ waiting taken.2)
  rw [List.append_assoc, read_append hfifo]
  exact h.order

theorem Kept.posted (hfifo : Fifo ops waiting) (h : Kept waiting fresh s) {events : List HidlEvent}
    (hcarries : List.Forall₂ Carries events
      (s.wrapper.mIntermediateEventBuffer.take events.length)) :
    Kept waiting fresh (s.posted events (s.wrapper.commit ops events.length)) := by
  refine ⟨?_, h.slots⟩
  let written := ops.write s.wrapper.mQueue
    (s.wrapper.mIntermediateEventBuffer.take events.length)
  change List.Forall₂ Carries (if written.1 then s.accepted ++ events else s.accepted)
    (s.received ++ waiting written.2)
  rw [hfifo.write]
  split_ifs
  · rw [← List.append_assoc]
    exact List.rel_append h.order hcarries
  · exact h.order

theorem Kept.filled (h : Kept waiting fresh s) {w : EventMessageQueueWrapperAidl Q maxEvents}
    {events : List HidlEvent} (hfill : s.wrapper.fill events = some w) :
    Kept waiting fresh { s.fills events.length with wrapper := w } ∧
      List.Forall₂ Carries events (w.mIntermediateEventBuffer.take events.length) := by
  obtain ⟨hqueue, converted, hcarries, hbuffer⟩ := fill_spec hfill
  rw [hcarries.length_eq, hbuffer, List.take_left]
  refine ⟨⟨?_, ?_⟩, hcarries⟩
  · change List.Forall₂ Carries s.accepted (s.received ++ waiting w.mQueue)
    rw [hqueue]
    exact h.order
  · change Slots fresh (max s.filled converted.length) w.mIntermediateEventBuffer
    rw [hbuffer]
    exact h.slots.overwrite (reading_of_carries hcarries)

theorem buffer_foldl_take (reads : List Nat) (s : Exchange Q maxEvents) :
    (reads.foldl (Exchange.take ops) s).wrapper.mIntermediateEventBuffer =
      s.wrapper.mIntermediateEventBuffer := by
  induction reads generalizing s with
  | nil => rfl
  | cons count reads ih =>
    rw [List.foldl_cons, ih]
    rfl

theorem Kept.foldl_take (hfifo : Fifo ops waiting) (h : Kept waiting fresh s) (reads : List Nat) :
    Kept waiting fresh (reads.foldl (Exchange.take ops) s) := by
  induction reads generalizing s with
  | nil => exact h
  | cons count reads ih => exact ih (h.take hfifo count)

theorem read_of_some {w : EventMessageQueueWrapperAidl Q maxEvents} {events : List HidlEvent}
    {items : List AidlEvent}
    {result : Bool × List HidlEvent × EventMessageQueueWrapperAidl Q maxEvents}
    (hitems : (ops.read w.mQueue events.length).1 = some items)
    (hread : w.read ops events = some result) :
    result.1 = true ∧ result.2.2.mQueue = (ops.read w.mQueue events.length).2 ∧
      result.2.2.mIntermediateEventBuffer =
        items ++ w.mIntermediateEventBuffer.drop items.length := by
  unfold EventMessageQueueWrapperAidl.read at hread
  split at hread
  next items' queue htake =>
    rw [htake] at hitems ⊢
    cases hitems
    split at hread
    · obtain ⟨converted, -, hresult⟩ := Option.bind_eq_some_iff.mp hread
      cases hresult
      exact ⟨rfl, rfl, rfl⟩
    · cases hread
  next htake =>
    rw [htake] at hitems
    cases hitems

theorem read_of_none {w : EventMessageQueueWrapperAidl Q maxEvents} {events : List HidlEvent}
    (hnone : (ops.read w.mQueue events.length).1 = none) :
    w.read ops events =
      (convertBackLoop w.mIntermediateEventBuffer 0 events).map fun converted =>
        (false, converted, { w with mQueue := (ops.read w.mQueue events.length).2 }) := by
  unfold EventMessageQueueWrapperAidl.read
  split
  next htake =>
    rw [htake] at hnone
    cases hnone
  next htake =>
    rw [htake]
    cases convertBackLoop w.mIntermediateEventBuffer 0 events <;> rfl

theorem Kept.read (hfifo : Fifo ops waiting) (h : Kept waiting fresh s) {events : List HidlEvent}
    (hstep : s.step ops (.read events) = some s') : Kept waiting fresh s' := by
  simp only [step] at hstep
  cases hitems : (ops.read s.wrapper.mQueue events.length).1 with
  | none =>
    rw [read_of_none hitems] at hstep
    cases hconverted : convertBackLoop s.wrapper.mIntermediateEventBuffer 0 events with
    | none =>
      rw [hconverted] at hstep
      cases hstep
    | some converted =>
      rw [hconverted] at hstep
      cases hstep
      refine ⟨?_, h.slots⟩
      change List.Forall₂ Carries s.accepted
        (s.received ++ waiting (ops.read s.wrapper.mQueue events.length).2)
      rw [hfifo.read_none _ _ hitems]
      exact h.order
  | some items =>
    obtain ⟨hlength, happend⟩ := hfifo.read_some _ _ _ hitems
    split at hstep
    next converted w hread =>
      cases hstep
      obtain ⟨-, hqueue, hbuffer⟩ := read_of_some hitems hread
      dsimp only at hqueue hbuffer
      rw [← hlength, hbuffer, List.take_left]
      refine ⟨?_, ?_⟩
      · change List.Forall₂ Carries s.accepted (s.received ++ items ++ waiting w.mQueue)
        rw [hqueue, List.append_assoc, happend]
        exact h.order
      · change Slots fresh (max s.filled items.length) w.mIntermediateEventBuffer
        rw [hbuffer]
        refine h.slots.overwrite fun event hevent => ?_
        refine reading_of_carries h.order event (List.mem_append_right _ ?_)
        rw [← happend]
        exact List.mem_append_left _ hevent
    next converted w hread => cases (read_of_some hitems hread).1
    next => cases hstep

theorem kept_step (hfifo : Fifo ops waiting) (h : Kept waiting fresh s) {operation : Operation}
    (hstep : s.step ops operation = some s') : Kept waiting fresh s' := by
  cases operation with
  | write events =>
    obtain ⟨result, hwrite, rfl⟩ := Option.map_eq_some_iff.mp hstep
    obtain ⟨w, hfill, rfl⟩ := Option.map_eq_some_iff.mp hwrite
    obtain ⟨hkept, hcarries⟩ := h.filled hfill
    exact hkept.posted hfifo hcarries
  | writeBlocking events reads =>
    obtain ⟨w, hfill, rfl⟩ := Option.map_eq_some_iff.mp hstep
    obtain ⟨hkept, hcarries⟩ := h.filled hfill
    refine (hkept.foldl_take hfifo reads).posted hfifo ?_
    rw [buffer_foldl_take]
    exact hcarries
  | read events => exact h.read hfifo hstep
  | take count =>
    cases hstep
    exact h.take hfifo count

theorem run_concat (mQueue : Q) (operations : List Operation) (operation : Operation) :
    (run ops mQueue fresh (operations ++ [operation]) : Option (Exchange Q maxEvents)) =
      (run ops mQueue fresh operations).bind (step ops · operation) := by
  rw [run, List.foldlM_append]
  congr 1
  funext s
  exact bind_pure _

theorem kept_of_run (hfifo : Fifo ops waiting) {mQueue : Q} (hempty : waiting mQueue = [])
    {operations : List Operation} (hrun : run ops mQueue fresh operations = some s) :
    Kept waiting fresh s := by
  induction operations using List.reverseRecOn generalizing s with
  | nil =>
    cases hrun
    exact kept_init hempty
  | append_singleton operations operation ih =>
    rw [run_concat] at hrun
    obtain ⟨before, hbefore, hstep⟩ := Option.bind_eq_some_iff.mp hrun
    exact kept_step hfifo (ih hbefore) hstep

end Exchange

open Exchange

section Results

variable {Q : Type} (ops : Operations Q AidlEvent) (waiting : Q → List AidlEvent) (mQueue : Q)
  (fresh : AidlEvent) (maxEvents : Nat) (operations : List Operation)

/-- **Order.**  Over a queue that is first in, first out, and however writes and reads
alternate, what was read and what still waits are the events of the writes that succeeded, in
their order, each once and with its reading. -/
theorem events_in_order (hfifo : Fifo ops waiting) (hempty : waiting mQueue = [])
    (s : Exchange Q maxEvents) (hrun : run ops mQueue fresh operations = some s) :
    List.Forall₂ Carries s.accepted (s.received ++ waiting s.wrapper.mQueue) :=
  (kept_of_run hfifo hempty hrun).order

/-- An event of the type `META_DATA` with another payload. -/
def zeroEvent : AidlEvent :=
  ⟨0, 0, 0, .vec3 ⟨0, 0, 0, 0⟩⟩

def fullQueue : List Operation :=
  [.write [sampleHeadTracker, sampleHeadTracker], .write [sampleHeadTracker, sampleHeadTracker],
    .take 1, .writeBlocking [sampleHeadTracker, sampleHeadTracker] [1]]

theorem events_in_order_full :
    ∃ s : Exchange (Bounded AidlEvent 3) 4,
      run Bounded.operations .empty zeroEvent fullQueue = some s ∧
      s.accepted.length = 4 ∧ s.received.length = 2 ∧
      List.Forall₂ Carries s.accepted (s.received ++ s.wrapper.mQueue.items) :=
  ⟨_, rfl, rfl, rfl,
    events_in_order Bounded.operations _ .empty zeroEvent 4 fullQueue Bounded.fifo rfl _ rfl⟩

def Operation.posts : Operation → Option (List HidlEvent)
  | .write events => some events
  | .writeBlocking events _ => some events
  | _ => none

theorem fill_isSome (w : EventMessageQueueWrapperAidl Q maxEvents) (events : List HidlEvent) :
    (w.fill events).isSome = true ↔
      events.length ≤ maxEvents ∧ ∀ event ∈ events, event.reading.isSome = true := by
  have hloop := convertLoop_isSome (Nat.zero_le w.mIntermediateEventBuffer.length) events
  rw [Nat.zero_add, w.size] at hloop
  rw [← hloop]
  unfold EventMessageQueueWrapperAidl.fill
  split
  next hsome => simp [hsome]
  next hnone => simp [hnone]

theorem step_isSome (s : Exchange Q maxEvents) {operation : Operation}
    (hposts : ∀ events, operation ≠ .read events) :
    (s.step ops operation).isSome = true ↔
      ∀ events, operation.posts = some events →
        events.length ≤ maxEvents ∧ ∀ event ∈ events, event.reading.isSome = true := by
  cases operation with
  | write events =>
    simp [step, EventMessageQueueWrapperAidl.write, Operation.posts, fill_isSome]
  | writeBlocking events reads => simp [step, Operation.posts, fill_isSome]
  | read events => exact absurd rfl (hposts events)
  | take count => simp [step, Operation.posts]

/-- **Posting.**  Whatever the queue does, and as long as nobody reads through the wrapper, the
service goes on exactly if no write brings more events than the buffer has slots, or one of a
type that is not known. -/
theorem posts_safe_iff (hposts : ∀ events, .read events ∉ operations) :
    (run ops mQueue fresh operations : Option (Exchange Q maxEvents)).isSome ↔
      ∀ operation ∈ operations, ∀ events, operation.posts = some events →
        events.length ≤ maxEvents ∧ ∀ event ∈ events, event.reading.isSome = true := by
  induction operations using List.reverseRecOn with
  | nil => simp [run]
  | append_singleton operations operation ih =>
    have hbefore := ih fun events hmem => hposts events (List.mem_append_left _ hmem)
    have hoperation (events : List HidlEvent) : operation ≠ .read events := by
      rintro rfl
      exact hposts events (List.mem_append_right _ (List.mem_singleton_self _))
    rw [run_concat, List.forall_mem_append, ← hbefore, List.forall_mem_singleton]
    cases hrun : (run ops mQueue fresh operations : Option (Exchange Q maxEvents)) with
    | none => simp
    | some s => simp [step_isSome ops maxEvents s hoperation]

theorem posts_safe_iff_full :
    (run Bounded.operations .empty zeroEvent fullQueue :
      Option (Exchange (Bounded AidlEvent 3) 4)).isSome ∧
    sampleHeadTracker.reading.isSome = true :=
  ⟨rfl, ((posts_safe_iff (Bounded.operations : Operations (Bounded AidlEvent 3) AidlEvent) .empty
    zeroEvent 4 fullQueue (by simp [fullQueue])).mp rfl _ List.mem_cons_self _ rfl).2 _
      List.mem_cons_self⟩

/-- **Stale events.**  If the conversion of a fresh event aborts, a read that asks for more
events than wait aborts exactly if it asks for more than the buffer has ever held at once.
Otherwise it fails, but hands out what earlier writes and reads have left in the buffer. -/
theorem failed_read_aborts_iff (hfifo : Fifo ops waiting) (hempty : waiting mQueue = [])
    (hfresh : ∀ event, convertToHidlEvent fresh event = none)
    (s : Exchange Q maxEvents) (hrun : run ops mQueue fresh operations = some s)
    (events : List HidlEvent) (hwaiting : (waiting s.wrapper.mQueue).length < events.length)
    (hsize : events.length ≤ maxEvents) :
    (s.wrapper.read ops events = none ↔ s.filled < events.length) ∧
      (events.length ≤ s.filled →
        ∃ stale w, s.wrapper.read ops events = some (false, stale, w) ∧
          waiting w.mQueue = waiting s.wrapper.mQueue ∧
          List.Forall₂ Carries stale
            (s.wrapper.mIntermediateEventBuffer.take events.length)) := by
  have hslots := (kept_of_run hfifo hempty hrun).slots
  have hnone := (hfifo.read_fails _ _).mpr hwaiting
  have hread := read_of_none hnone
  have hunread : fresh.reading.isSome = false := by
    rw [← convertToHidlEvent_isSome fresh sampleHeadTracker, hfresh]
    rfl
  have hslot (i : Nat) (hi : i < events.length) :
      ∃ slot, s.wrapper.mIntermediateEventBuffer[i]? = some slot ∧
        (slot.reading.isSome = true ↔ i < s.filled) := by
    have hlt : i < s.wrapper.mIntermediateEventBuffer.length := by
      rw [s.wrapper.size]
      omega
    refine ⟨_, List.getElem?_eq_getElem hlt, ?_⟩
    have hthis := hslots i _ (List.getElem?_eq_getElem hlt)
    split_ifs at hthis with hfilled
    · exact iff_of_true hthis hfilled
    · rw [hthis, hunread]
      exact iff_of_false Bool.false_ne_true hfilled
  have hloop : (convertBackLoop s.wrapper.mIntermediateEventBuffer 0 events).isSome = true ↔
      events.length ≤ s.filled := by
    rw [convertBackLoop_isSome]
    constructor
    · intro hall
      by_contra hmore
      obtain ⟨slot, hbuffer, hfilled⟩ := hslot s.filled (by omega)
      obtain ⟨slot', hbuffer', hsome⟩ := hall s.filled (by omega)
      rw [Nat.zero_add] at hbuffer'
      cases hbuffer.symm.trans hbuffer'
      exact absurd (hfilled.mp hsome) (Nat.lt_irrefl _)
    · intro hle i hi
      obtain ⟨slot, hbuffer, hfilled⟩ := hslot i hi
      rw [Nat.zero_add]
      exact ⟨slot, hbuffer, hfilled.mpr (by omega)⟩
  rw [hread]
  constructor
  · rw [Option.map_eq_none_iff, ← Option.not_isSome_iff_eq_none, hloop, Nat.not_le]
  · intro hle
    obtain ⟨stale, hstale⟩ := Option.isSome_iff_exists.mp (hloop.mpr hle)
    refine ⟨stale, _, by rw [hstale, Option.map_some], hfifo.read_none _ _ hnone, ?_⟩
    exact convertBackLoop_carries hstale

/-- The two events have been read; a third read hands one of them out again. -/
theorem failed_read_aborts_iff_stale :
    ∃ (s : Exchange (Bounded AidlEvent 3) 4) (stale : List HidlEvent)
        (w : EventMessageQueueWrapperAidl (Bounded AidlEvent 3) 4),
      run Bounded.operations .empty zeroEvent
        [.write [sampleHeadTracker, sampleHeadTracker], .take 2] = some s ∧
      s.wrapper.mQueue.items = [] ∧
      s.wrapper.read Bounded.operations [sampleHeadTracker] = some (false, stale, w) ∧
      s.wrapper.read Bounded.operations
        [sampleHeadTracker, sampleHeadTracker, sampleHeadTracker] = none := by
  have hread (events : List HidlEvent) := failed_read_aborts_iff Bounded.operations _
    (.empty : Bounded AidlEvent 3) zeroEvent 4
    [.write [sampleHeadTracker, sampleHeadTracker], .take 2] Bounded.fifo rfl (fun _ => rfl) _ rfl
    events
  obtain ⟨stale, w, hstale, -⟩ := (hread [sampleHeadTracker] (by decide) (by decide)).2 (by decide)
  exact ⟨_, stale, w, rfl, rfl, hstale, (hread [sampleHeadTracker, sampleHeadTracker,
    sampleHeadTracker] (by decide) (by decide)).1.mpr (by decide)⟩

end Results

end Exynos9810.Sensors
