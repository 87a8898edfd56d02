/-
Messages that a separator ends, in a stream that arrives in chunks.

What has been received is always some complete messages and an unfinished rest, in
one way only.  A receiver that keeps the rest between chunks and takes the complete
messages off each time hands on the same messages however the stream was cut.
-/

import Mathlib.Data.List.Infix

namespace Delimited

variable {Symbol : Type}

def frame (separator : Symbol) (messages : List (List Symbol)) : List Symbol :=
  messages.flatMap fun message => message ++ [separator]

@[simp] theorem frame_nil (separator : Symbol) : frame separator [] = [] := rfl

@[simp] theorem frame_cons (separator : Symbol) (message : List Symbol)
    (messages : List (List Symbol)) :
    frame separator (message :: messages) = message ++ separator :: frame separator messages := by
  rw [frame, List.flatMap_cons, List.append_assoc]
  rfl

@[simp] theorem frame_append (separator : Symbol) (left right : List (List Symbol)) :
    frame separator (left ++ right) = frame separator left ++ frame separator right :=
  List.flatMap_append

/-- The received symbols are these complete messages and this rest. -/
structure Frames (separator : Symbol) (received : List Symbol) (messages : List (List Symbol))
    (rest : List Symbol) : Prop where
  joined : received = frame separator messages ++ rest
  free : ∀ message ∈ messages, separator ∉ message
  restFree : separator ∉ rest

namespace Frames

variable {separator : Symbol} {received chunk : List Symbol} {messages more : List (List Symbol)}
  {rest other : List Symbol}

theorem append (before : Frames separator received messages rest)
    (later : Frames separator (rest ++ chunk) more other) :
    Frames separator (received ++ chunk) (messages ++ more) other := by
  constructor
  · rw [frame_append, List.append_assoc, ← later.joined, ← List.append_assoc, ← before.joined]
  · intro message member
    rcases List.mem_append.mp member with early | late
    · exact before.free message early
    · exact later.free message late
  · exact later.restFree

section Split

variable [DecidableEq Symbol]

theorem splitOn (frames : Frames separator received messages rest) :
    received.splitOn separator = messages ++ [rest] := by
  obtain ⟨rfl, free, restFree⟩ := frames
  induction messages with
  | nil => exact List.splitOn_eq_singleton restFree
  | cons message messages ih =>
      have messageFree := free message List.mem_cons_self
      have later := ih (fun other member => free other (List.mem_cons_of_mem message member))
      rw [frame_cons, List.append_assoc, List.cons_append,
        List.splitOn_append_cons_self_of_not_mem messageFree, later]
      rfl

theorem unique (left : Frames separator received messages rest)
    (right : Frames separator received more other) : messages = more ∧ rest = other := by
  have same := left.splitOn.symm.trans right.splitOn
  obtain ⟨sameMessages, sameRest⟩ := List.append_inj' same rfl
  exact ⟨sameMessages, List.singleton_inj.mp sameRest⟩

theorem exist (separator : Symbol) (received : List Symbol) :
    ∃ messages rest, Frames separator received messages rest := by
  induction received with
  | nil => exact ⟨[], [], rfl, (fun message none => nomatch none), List.not_mem_nil⟩
  | cons symbol received ih =>
      obtain ⟨messages, rest, joined, free, restFree⟩ := ih
      by_cases ends : symbol = separator
      · refine ⟨[] :: messages, rest, ?_, ?_, restFree⟩
        · rw [frame_cons, joined, ends]
          rfl
        · intro message member
          rcases List.mem_cons.mp member with isNew | old
          · rw [isNew]
            exact List.not_mem_nil
          · exact free message old
      · have longer : ∀ word : List Symbol, separator ∉ word → separator ∉ symbol :: word := by
          intro word wordFree member
          rcases List.mem_cons.mp member with same | inWord
          · exact ends same.symm
          · exact wordFree inWord
        cases messages with
        | nil =>
            refine ⟨[], symbol :: rest, ?_, free, longer rest restFree⟩
            rw [joined]
            rfl
        | cons message messages =>
            refine ⟨(symbol :: message) :: messages, rest, ?_, ?_, restFree⟩
            · rw [joined]
              rfl
            · intro other member
              rcases List.mem_cons.mp member with isFirst | old
              · rw [isFirst]
                exact longer message (free message List.mem_cons_self)
              · exact free other (List.mem_cons_of_mem message old)

theorem resume (before : Frames separator received more other)
    (whole : Frames separator (received ++ chunk) messages rest) :
    ∃ later, messages = more ++ later ∧ Frames separator (other ++ chunk) later rest := by
  obtain ⟨later, last, frames⟩ := exist separator (other ++ chunk)
  obtain ⟨sameMessages, sameRest⟩ := whole.unique (before.append frames)
  exact ⟨later, sameMessages, sameRest ▸ frames⟩

theorem count (frames : Frames separator received messages rest) :
    received.count separator = messages.length := by
  obtain ⟨rfl, free, restFree⟩ := frames
  rw [List.count_append, List.count_eq_zero.mpr restFree, Nat.add_zero]
  induction messages with
  | nil => rfl
  | cons message messages ih =>
      rw [frame_cons, List.count_append,
        List.count_eq_zero.mpr (free message List.mem_cons_self), List.count_cons_self,
        ih (fun other member => free other (List.mem_cons_of_mem message member)),
        List.length_cons, Nat.zero_add]

end Split

/-- A translation of symbols that confuses none with the separator keeps the framing. -/
theorem map {Image : Type} (translate : Symbol → Image)
    (faithful : ∀ symbol ∈ received, translate symbol = translate separator → symbol = separator)
    (frames : Frames separator received messages rest) :
    Frames (translate separator) (received.map translate)
      (messages.map fun message => message.map translate) (rest.map translate) := by
  have absent : ∀ word : List Symbol, (∀ symbol ∈ word, symbol ∈ received) →
      separator ∉ word → translate separator ∉ word.map translate := by
    intro word inside wordFree member
    obtain ⟨symbol, inWord, same⟩ := List.mem_map.mp member
    exact wordFree (faithful symbol (inside symbol inWord) same ▸ inWord)
  have joined := frames.joined
  constructor
  · have framed : ∀ words : List (List Symbol), (frame separator words).map translate =
        frame (translate separator) (words.map fun word => word.map translate) := by
      intro words
      induction words with
      | nil => rfl
      | cons word words ih =>
          rw [frame_cons, List.map_append, List.map_cons, ih, List.map_cons, frame_cons]
    rw [joined, List.map_append, framed]
  · intro image member
    obtain ⟨message, inMessages, rfl⟩ := List.mem_map.mp member
    refine absent message (fun symbol inMessage => ?_) (frames.free message inMessages)
    rw [joined]
    exact List.mem_append_left _ (List.mem_flatMap.mpr
      ⟨message, inMessages, List.mem_append_left _ inMessage⟩)
  · refine absent rest (fun symbol inRest => ?_) frames.restFree
    rw [joined]
    exact List.mem_append_right _ inRest

end Frames

/-- A receiver takes what it kept and a chunk, and gives the messages it hands on and
what it keeps, or fails. -/
def receiveAll (receive : List Symbol → List Symbol → Option (List (List Symbol) × List Symbol)) :
    List Symbol → List (List Symbol) → Option (List (List Symbol) × List Symbol)
  | kept, [] => some ([], kept)
  | kept, chunk :: chunks =>
      match receive kept chunk with
      | none => none
      | some (messages, kept) =>
          match receiveAll receive kept chunks with
          | none => none
          | some (later, kept) => some (messages ++ later, kept)

/-- A receiver that is right about one chunk with proper messages is right about every
cut of a stream of proper messages. -/
theorem receiveAll_frames [DecidableEq Symbol] {separator : Symbol} {proper : List Symbol → Prop}
    {receive : List Symbol → List Symbol → Option (List (List Symbol) × List Symbol)}
    (right : ∀ kept chunk messages rest, chunk ≠ [] → (∀ message ∈ messages, proper message) →
      Frames separator (kept ++ chunk) messages rest → receive kept chunk = some (messages, rest))
    {chunks : List (List Symbol)} (nonempty : ∀ chunk ∈ chunks, chunk ≠ [])
    {kept rest : List Symbol} {messages : List (List Symbol)} (keptFree : separator ∉ kept)
    (areProper : ∀ message ∈ messages, proper message)
    (frames : Frames separator (kept ++ chunks.flatten) messages rest) :
    receiveAll receive kept chunks = some (messages, rest) := by
  induction chunks generalizing kept messages with
  | nil =>
      have alone : Frames separator (kept ++ [].flatten) [] kept := by
        rw [List.flatten_nil, List.append_nil]
        exact ⟨rfl, (fun message none => nomatch none), keptFree⟩
      obtain ⟨rfl, rfl⟩ := alone.unique frames
      rfl
  | cons chunk chunks ih =>
      rw [List.flatten_cons, ← List.append_assoc] at frames
      obtain ⟨first, middle, now⟩ := Frames.exist separator (kept ++ chunk)
      obtain ⟨later, rfl, next⟩ := now.resume frames
      have received := right kept chunk first middle (nonempty chunk List.mem_cons_self)
        (fun message member => areProper message (List.mem_append_left _ member)) now
      have others := ih (fun other member => nonempty other (List.mem_cons_of_mem chunk member))
        now.restFree (fun message member => areProper message (List.mem_append_right _ member)) next
      rw [receiveAll, received]
      simp only [others]

end Delimited
