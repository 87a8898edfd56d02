/-
Messages between natporte and the pool server, one a line.

Both ends keep the unfinished rest between two reads: `addrpool_receiver` of
addrpool.h in `string_buffer`, which `split` of utils.hpp takes apart, and
`server_data` of bin/pool_server in `natporte_message[socket_id]`.  What becomes of
a line behind `read_json` or `JSON.parse` is not part of the framing.
-/

import NatPorte.Library.ByteBuffer
import NatPorte.Library.Delimited
import NatPorte.Entry

namespace NatPorte
namespace Framing

open ByteBuffer Delimited ObjectMap Entry

abbrev Bytes := List Byte

def newline : Byte := 10

/-! ### split of utils.hpp -/

/-- `s.find(c, pos)`; npos is `none`. -/
def find (s : Bytes) (c : Byte) (pos : Nat) : Option Nat :=
  if c ∈ s.drop pos then some (pos + (s.drop pos).idxOf c) else none

/-- `s.substr(pos, len)`, which throws when `pos` lies behind the end. -/
def substr (s : Bytes) (pos len : Nat) : Option Bytes :=
  if s.length < pos then none else some ((s.drop pos).take len)

theorem find_bounds {s : Bytes} {c : Byte} {pos next : Nat} (found : find s c pos = some next) :
    pos ≤ next ∧ next < s.length := by
  unfold find at found
  split at found
  · next member =>
      cases found
      have inside := List.idxOf_lt_length_of_mem member
      rw [List.length_drop] at inside
      omega
  · cases found

/-- The loop with a separator at `i`. -/
def splitLoop (s : Bytes) (c : Byte) (i : Nat) (dst : List Bytes) : Option (List Bytes) :=
  match _found : find s c (i + 1) with
  | none =>
      match substr s (i + 1) s.length with
      | none => none
      | some last => some (dst ++ [last])
  | some j =>
      match substr s i (j - i) with
      | none => none
      | some tmp =>
          match substr tmp 1 tmp.length with
          | none => none
          | some piece => splitLoop s c j (dst ++ [piece])
termination_by s.length - i
decreasing_by
  have bounds := find_bounds _found
  omega

/-- An empty first piece ends the function with an empty vector. -/
def split (s : Bytes) (c : Byte) : Option (List Bytes) :=
  let j := find s c 0
  let tmp := s.take (j.getD s.length)
  if tmp.length = 0 then some []
  else
    match j with
    | none => some [tmp]
    | some j => splitLoop s c j [tmp]

/-! ### addrpool_receiver -/

/-- One `recv`: the pieces that are handed on and the new `string_buffer`.  `back()` of
an empty vector is undefined. -/
def addrpoolReceive (stringBuffer mesg : Bytes) : Option (List Bytes × Bytes) :=
  match split (stringBuffer ++ mesg) newline with
  | none => none
  | some stringVector =>
      match stringVector.getLast? with
      | none => none
      | some back =>
          some (stringVector.take (stringVector.length - 1), if back.length = 0 then [] else back)

/-! ### server_data -/

/-- `toString('ascii')` drops the high bit. -/
def asciiChar (byte : Byte) : Char := Char.ofNat (byte.toNat % 128)

def ascii (data : Bytes) : JsString := data.map asciiChar

/-- The strings that go to `JSON.parse`, and the text that is kept. -/
def serverLines (buffer text : JsString) : List JsString × JsString :=
  let stringIndexing := (buffer ++ text).splitOn '\n'
  let last := stringIndexing.length
  (stringIndexing.take (last - 1), stringIndexing[last - 1]?.getD [])

/-- A socket without an entry ends in a TypeError, which is only logged. -/
def serverData (natporteMessage : Object JsString JsString) (socketId : JsString) (data : Bytes) :
    Object JsString JsString × List JsString :=
  match get natporteMessage socketId with
  | none => (natporteMessage, [])
  | some buffer =>
      (set natporteMessage socketId (serverLines buffer (ascii data)).2,
        (serverLines buffer (ascii data)).1)

/-- The data events of all sockets in the order they are served, with the strings that
each socket's messages are parsed from. -/
def serverDataAll : Object JsString JsString → List (JsString × Bytes) →
    Object JsString JsString × List (JsString × JsString)
  | natporteMessage, [] => (natporteMessage, [])
  | natporteMessage, (socketId, data) :: events =>
      let served := serverData natporteMessage socketId data
      let later := serverDataAll served.1 events
      (later.1, served.2.map (fun line => (socketId, line)) ++ later.2)

def ofSocket {Item : Type} (socketId : JsString) (items : List (JsString × Item)) : List Item :=
  (items.filter fun item => item.1 = socketId).map Prod.snd

section Split

variable {front middle rest : Bytes} {c : Byte}

theorem find_first (absent : c ∉ middle) :
    find (front ++ (middle ++ c :: rest)) c front.length = some (front.length + middle.length) := by
  unfold find
  rw [List.drop_left, if_pos (List.mem_append_right _ List.mem_cons_self),
    List.idxOf_append_of_notMem absent, List.idxOf_cons_self, Nat.add_zero]

theorem find_none (absent : c ∉ rest) : find (front ++ rest) c front.length = none := by
  unfold find
  rw [List.drop_left, if_neg absent]

theorem substr_middle : substr (front ++ (middle ++ rest)) front.length middle.length =
    some middle := by
  unfold substr
  rw [List.drop_left, List.take_left, if_neg (by rw [List.length_append]; omega)]

theorem substr_rest {length : Nat} (long : rest.length ≤ length) :
    substr (front ++ rest) front.length length = some rest := by
  unfold substr
  rw [List.drop_left, List.take_of_length_le long, if_neg (by rw [List.length_append]; omega)]

theorem length_snoc (front : Bytes) (c : Byte) : front.length + 1 = (front ++ [c]).length := by
  rw [List.length_append]
  rfl

theorem splitLoop_last (absent : c ∉ rest) (front : Bytes) (dst : List Bytes) :
    splitLoop (front ++ c :: rest) c front.length dst = some (dst ++ [rest]) := by
  have whole : front ++ c :: rest = (front ++ [c]) ++ rest := by
    rw [List.append_assoc]
    rfl
  rw [splitLoop, whole, length_snoc front c]
  split
  · rw [substr_rest (by rw [List.length_append]; omega)]
  · next found =>
      rw [find_none absent] at found
      cases found

theorem splitLoop_next (absent : c ∉ middle) (front : Bytes) (dst : List Bytes) :
    splitLoop (front ++ c :: (middle ++ c :: rest)) c front.length dst =
      splitLoop ((front ++ c :: middle) ++ c :: rest) c (front ++ c :: middle).length
        (dst ++ [middle]) := by
  have behind : front ++ c :: (middle ++ c :: rest) = (front ++ [c]) ++ (middle ++ c :: rest) := by
    rw [List.append_assoc]
    rfl
  have around : front ++ c :: (middle ++ c :: rest) = front ++ ((c :: middle) ++ c :: rest) := rfl
  have position : (front ++ [c]).length + middle.length = (front ++ c :: middle).length := by
    simp only [List.length_append, List.length_cons, List.length_nil]
    omega
  have width : (front ++ c :: middle).length - front.length = (c :: middle).length := by
    rw [List.length_append, Nat.add_sub_cancel_left]
  have located : find (front ++ c :: (middle ++ c :: rest)) c (front.length + 1) =
      some (front ++ c :: middle).length := by
    rw [behind, length_snoc front c, find_first absent, position]
  have piece : substr (c :: middle) 1 (c :: middle).length = some middle :=
    @substr_rest [c] middle (c :: middle).length (Nat.le_succ _)
  rw [splitLoop]
  split
  · next missing =>
      rw [located] at missing
      cases missing
  · next j found =>
      rw [located] at found
      cases found
      rw [width, around, substr_middle]
      simp only
      rw [piece, List.append_assoc]

theorem splitLoop_frames {tail : Bytes} {messages : List Bytes} {last : Bytes}
    (frames : Frames c tail messages last) (front : Bytes) (dst : List Bytes) :
    splitLoop (front ++ c :: tail) c front.length dst = some (dst ++ (messages ++ [last])) := by
  obtain ⟨rfl, free, lastFree⟩ := frames
  induction messages generalizing front dst with
  | nil => exact splitLoop_last lastFree front dst
  | cons message messages ih =>
      have later := ih (front ++ c :: message) (dst ++ [message])
        (fun other member => free other (List.mem_cons_of_mem message member))
      rw [frame_cons, List.append_assoc, List.cons_append,
        splitLoop_next (free message List.mem_cons_self), later, List.append_assoc]
      rfl

theorem split_frames {s : Bytes} {messages : List Bytes} {last : Bytes}
    (frames : Frames c s messages last) (first : (messages ++ [last]).head? ≠ some []) :
    split s c = some (messages ++ [last]) := by
  obtain ⟨rfl, free, lastFree⟩ := frames
  cases messages with
  | nil =>
      have unsplit : find last c 0 = none := @find_none [] last c lastFree
      have present : last.length ≠ 0 := by
        intro empty
        rw [List.length_eq_zero_iff.mp empty] at first
        exact first rfl
      rw [split, frame_nil, List.nil_append, unsplit, Option.getD_none, List.take_length]
      simp only [if_neg present, List.nil_append]
  | cons message messages =>
      have messageFree := free message List.mem_cons_self
      have located : find (message ++ c :: (frame c messages ++ last)) c 0 = some message.length := by
        have found := @find_first [] message (frame c messages ++ last) c messageFree
        rw [List.length_nil, Nat.zero_add] at found
        exact found
      have present : message.length ≠ 0 := by
        intro empty
        rw [List.length_eq_zero_iff.mp empty] at first
        exact first rfl
      have loop := splitLoop_frames
        ⟨rfl, fun other member => free other (List.mem_cons_of_mem message member), lastFree⟩
        message [message]
      rw [frame_cons, List.append_assoc, List.cons_append, split, located, Option.getD_some,
        List.take_left]
      simp only [if_neg present]
      exact loop

end Split

/-- The pieces between the separators, which together are the whole string. -/
structure Whole (s : Bytes) (pieces : List Bytes) : Prop where
  nonempty : pieces ≠ []
  free : ∀ piece ∈ pieces, newline ∉ piece
  joined : [newline].intercalate pieces = s

theorem split_nothing {s : Bytes} (nothing : s = [] ∨ s.head? = some newline) :
    split s newline = some [] := by
  have start : s.take ((find s newline 0).getD s.length) = [] := by
    rcases nothing with rfl | separator
    · exact List.take_nil
    · cases s with
      | nil => cases separator
      | cons byte rest =>
          cases separator
          have found : find (newline :: rest) newline 0 = some 0 := by simp [find]
          rw [found]
          rfl
  rw [split]
  simp only [start, List.length_nil, if_true]

theorem frames_first {s : Bytes} {messages : List Bytes} {last : Bytes}
    (frames : Frames newline s messages last) (present : s ≠ [])
    (separated : s.head? ≠ some newline) : (messages ++ [last]).head? ≠ some [] := by
  have joined := frames.joined
  cases messages with
  | nil =>
      intro empty
      rw [frame_nil, List.nil_append, Option.some.inj empty] at joined
      exact present joined
  | cons message messages =>
      intro empty
      have noMessage : message = [] := Option.some.inj empty
      rw [frame_cons, noMessage] at joined
      rw [joined] at separated
      exact separated rfl

theorem frames_whole {s : Bytes} {messages : List Bytes} {last : Bytes}
    (frames : Frames newline s messages last) : Whole s (messages ++ [last]) := by
  constructor
  · intro empty
    cases messages <;> cases empty
  · intro piece member
    rcases List.mem_append.mp member with inMessages | isLast
    · exact frames.free piece inMessages
    · rw [List.mem_singleton.mp isLast]
      exact frames.restFree
  · rw [← frames.splitOn, List.intercalate_splitOn]

/-- A message as it travels. -/
structure Line (message : Bytes) : Prop where
  nonempty : message ≠ []
  free : newline ∉ message
  ascii : ∀ byte ∈ message, byte.toNat < 128

theorem addrpoolReceive_split {kept chunk : Bytes} {messages : List Bytes} {rest : Bytes}
    (frames : Frames newline (kept ++ chunk) messages rest)
    (first : (messages ++ [rest]).head? ≠ some []) :
    addrpoolReceive kept chunk = some (messages, rest) := by
  have keeps : (if rest.length = 0 then [] else rest) = rest := by
    split
    · next empty => rw [List.length_eq_zero_iff.mp empty]
    · rfl
  rw [addrpoolReceive, split_frames frames first]
  simp only [List.getLast?_append, List.getLast?_singleton, Option.some_or, List.length_append,
    List.length_singleton, Nat.add_sub_cancel, List.take_left, keeps]

theorem addrpoolReceive_frames (kept chunk : Bytes) (messages : List Bytes) (rest : Bytes)
    (nonempty : chunk ≠ []) (areLines : ∀ message ∈ messages, message ≠ [])
    (frames : Frames newline (kept ++ chunk) messages rest) :
    addrpoolReceive kept chunk = some (messages, rest) := by
  apply addrpoolReceive_split frames
  cases messages with
  | nil =>
      intro empty
      have joined := frames.joined
      rw [frame_nil, List.nil_append, Option.some.inj empty] at joined
      exact nonempty (List.append_eq_nil_iff.mp joined).2
  | cons message messages =>
      intro empty
      exact areLines message List.mem_cons_self (Option.some.inj empty)

/-- `split` ends on every string; its pieces are the whole string, and what
`addrpool_receiver` takes from them is all it has received, exactly when something
stands in front of the first separator. -/
theorem split_whole_iff (stringBuffer mesg : Bytes) :
    ∃ pieces, split (stringBuffer ++ mesg) newline = some pieces ∧
      (Whole (stringBuffer ++ mesg) pieces ↔
        stringBuffer ++ mesg ≠ [] ∧ (stringBuffer ++ mesg).head? ≠ some newline) ∧
      ((∃ lines kept, addrpoolReceive stringBuffer mesg = some (lines, kept) ∧
          frame newline lines ++ kept = stringBuffer ++ mesg) ↔
        stringBuffer ++ mesg ≠ [] ∧ (stringBuffer ++ mesg).head? ≠ some newline) := by
  by_cases starts : stringBuffer ++ mesg ≠ [] ∧ (stringBuffer ++ mesg).head? ≠ some newline
  · obtain ⟨messages, last, frames⟩ := Frames.exist newline (stringBuffer ++ mesg)
    have first := frames_first frames starts.1 starts.2
    refine ⟨messages ++ [last], split_frames frames first, ?_, ?_⟩
    · exact ⟨fun _ => starts, fun _ => frames_whole frames⟩
    · refine ⟨fun _ => starts, fun _ => ?_⟩
      exact ⟨messages, last, addrpoolReceive_split frames first, frames.joined.symm⟩
  · have nothing : stringBuffer ++ mesg = [] ∨ (stringBuffer ++ mesg).head? = some newline := by
      by_cases present : stringBuffer ++ mesg = []
      · exact .inl present
      · exact .inr (Classical.not_not.mp (fun other => starts ⟨present, other⟩))
    refine ⟨[], split_nothing nothing, ?_, ?_⟩
    · exact ⟨fun whole => absurd rfl whole.nonempty, fun holds => absurd holds starts⟩
    · refine ⟨?_, fun holds => absurd holds starts⟩
      rintro ⟨lines, kept, received, -⟩
      rw [addrpoolReceive, split_nothing nothing] at received
      cases received

/-- A line that begins with the separator is dropped whole, and so is the empty string. -/
theorem split_loses_line :
    (¬ ∃ pieces, split [10, 123, 125] newline = some pieces ∧ Whole [10, 123, 125] pieces) ∧
      ¬ ∃ pieces, split [] newline = some pieces ∧ Whole [] pieces := by
  constructor
  · rintro ⟨pieces, cut, whole⟩
    rw [split_nothing (.inr rfl)] at cut
    cases cut
    exact whole.nonempty rfl
  · rintro ⟨pieces, cut, whole⟩
    rw [split_nothing (.inl rfl)] at cut
    cases cut
    exact whole.nonempty rfl

theorem serverLines_frames {buffer text : JsString} {messages : List JsString} {rest : JsString}
    (frames : Frames '\n' (buffer ++ text) messages rest) :
    serverLines buffer text = (messages, rest) := by
  rw [serverLines, frames.splitOn]
  simp only [List.length_append, List.length_singleton, Nat.add_sub_cancel, List.take_left,
    List.getElem?_concat_length, Option.getD_some]

section Sockets

variable {Item : Type} {socketId sender : JsString}

theorem ofSocket_cons_self (item : Item) (items : List (JsString × Item)) :
    ofSocket socketId ((socketId, item) :: items) = item :: ofSocket socketId items := by
  simp [ofSocket]

theorem ofSocket_cons_other (different : sender ≠ socketId) (item : Item)
    (items : List (JsString × Item)) :
    ofSocket socketId ((sender, item) :: items) = ofSocket socketId items := by
  simp [ofSocket, different]

theorem ofSocket_lines_self (lines : List Item) (items : List (JsString × Item)) :
    ofSocket socketId (lines.map (fun line => (socketId, line)) ++ items) =
      lines ++ ofSocket socketId items := by
  induction lines with
  | nil => rfl
  | cons line lines ih => rw [List.map_cons, List.cons_append, ofSocket_cons_self, ih, List.cons_append]

theorem ofSocket_lines_other (different : sender ≠ socketId) (lines : List Item)
    (items : List (JsString × Item)) :
    ofSocket socketId (lines.map (fun line => (sender, line)) ++ items) =
      ofSocket socketId items := by
  induction lines with
  | nil => rfl
  | cons line lines ih => rw [List.map_cons, List.cons_append, ofSocket_cons_other different, ih]

theorem serverData_other {natporteMessage : Object JsString JsString}
    (different : sender ≠ socketId) (data : Bytes) :
    get (serverData natporteMessage sender data).1 socketId = get natporteMessage socketId := by
  unfold serverData
  split
  · rfl
  · exact get_set_other (Ne.symm different)

theorem serverDataAll_socket (events : List (JsString × Bytes))
    {natporteMessage : Object JsString JsString} {buffer : JsString}
    (present : get natporteMessage socketId = some buffer) {lines : List JsString}
    {kept : JsString}
    (alone : receiveAll (fun buffer text => some (serverLines buffer text)) buffer
      ((ofSocket socketId events).map ascii) = some (lines, kept)) :
    get (serverDataAll natporteMessage events).1 socketId = some kept ∧
      ofSocket socketId (serverDataAll natporteMessage events).2 = lines := by
  induction events generalizing natporteMessage buffer lines with
  | nil =>
      cases alone
      exact ⟨present, rfl⟩
  | cons event events ih =>
      obtain ⟨sender, data⟩ := event
      rw [serverDataAll]
      by_cases same : sender = socketId
      · subst same
        rw [ofSocket_cons_self, List.map_cons, receiveAll] at alone
        have served : serverData natporteMessage sender data =
            (set natporteMessage sender (serverLines buffer (ascii data)).2,
              (serverLines buffer (ascii data)).1) := by
          rw [serverData, present]
        simp only at alone
        split at alone
        · cases alone
        · next later last others =>
            cases alone
            have carried : get (serverData natporteMessage sender data).1 sender =
                some (serverLines buffer (ascii data)).2 := by
              rw [served, get_set_self]
            obtain ⟨keeps, gives⟩ := ih carried others
            refine ⟨keeps, ?_⟩
            rw [ofSocket_lines_self, gives, served]
      · rw [ofSocket_cons_other same] at alone
        obtain ⟨keeps, gives⟩ := ih ((serverData_other same data).trans present) alone
        refine ⟨keeps, ?_⟩
        rw [ofSocket_lines_other same, gives]

end Sockets

theorem asciiChar_newline : ∀ byte : Byte, byte.toNat < 128 →
    asciiChar byte = asciiChar newline → byte = newline := by
  decide +kernel

theorem frames_so_far {messages : List Bytes} (areLines : ∀ message ∈ messages, Line message)
    {received later : Bytes} (stream : received ++ later = frame newline messages) :
    ∃ rest, Frames newline received (messages.take (received.count newline)) rest := by
  have whole : Frames newline (received ++ later) messages [] :=
    ⟨by rw [stream, List.append_nil], fun message member => (areLines message member).free,
      List.not_mem_nil⟩
  obtain ⟨complete, rest, frames⟩ := Frames.exist newline received
  obtain ⟨others, isWhole, -⟩ := frames.resume whole
  refine ⟨rest, ?_⟩
  rw [frames.count, isWhole, List.take_left]
  exact frames

theorem line_bytes {messages : List Bytes} (areLines : ∀ message ∈ messages, Line message) :
    ∀ byte ∈ frame newline messages, byte.toNat < 128 := by
  intro byte member
  obtain ⟨message, inMessages, inFrame⟩ := List.mem_flatMap.mp member
  rcases List.mem_append.mp inFrame with inMessage | isNewline
  · exact (areLines message inMessages).ascii byte inMessage
  · rw [List.mem_singleton.mp isNewline]
    decide

/-- After each chunk both ends have handed on exactly the messages whose newline has
arrived, and keep the rest; at the server this holds for every socket, whatever the
others send in between. -/
theorem framing_ignores_cuts (messages : List Bytes)
    (areLines : ∀ message ∈ messages, Line message) (chunks : List Bytes)
    (nonempty : ∀ chunk ∈ chunks, chunk ≠ []) (cut : chunks.flatten = frame newline messages)
    (seen : List Bytes) (soFar : seen <+: chunks) :
    ∃ rest, seen.flatten =
        frame newline (messages.take (seen.flatten.count newline)) ++ rest ∧ newline ∉ rest ∧
      receiveAll addrpoolReceive [] seen =
        some (messages.take (seen.flatten.count newline), rest) ∧
      ∀ natporteMessage events socketId, get natporteMessage socketId = some [] →
        ofSocket socketId events = seen →
        ofSocket socketId (serverDataAll natporteMessage events).2 =
          (messages.take (seen.flatten.count newline)).map ascii ∧
        get (serverDataAll natporteMessage events).1 socketId = some (ascii rest) := by
  obtain ⟨later, isPrefix⟩ := soFar
  have stream : seen.flatten ++ later.flatten = frame newline messages := by
    rw [← List.flatten_append, isPrefix, cut]
  have nonemptySeen : ∀ chunk ∈ seen, chunk ≠ [] :=
    fun chunk member => nonempty chunk (isPrefix ▸ List.mem_append_left later member)
  obtain ⟨rest, frames⟩ := frames_so_far areLines stream
  refine ⟨rest, frames.joined, frames.restFree, ?_, ?_⟩
  · apply receiveAll_frames addrpoolReceive_frames nonemptySeen List.not_mem_nil
    · intro message member
      exact (areLines message (List.mem_of_mem_take member)).nonempty
    · exact frames
  · intro natporteMessage events socketId present sent
    have faithful : ∀ byte ∈ seen.flatten, asciiChar byte = asciiChar newline → byte = newline := by
      intro byte member
      apply asciiChar_newline
      apply line_bytes areLines
      rw [← stream]
      exact List.mem_append_left _ member
    have decoded := frames.map asciiChar faithful
    have text : (seen.map ascii).flatten = seen.flatten.map asciiChar := List.map_flatten.symm
    have right : ∀ buffer text lines kept, text ≠ [] → (∀ line ∈ lines, True) →
        Frames '\n' (buffer ++ text) lines kept →
        some (serverLines buffer text) = some (lines, kept) :=
      fun buffer text lines kept _ _ framed => congrArg some (serverLines_frames framed)
    have alone : receiveAll (fun buffer text => some (serverLines buffer text)) []
        ((ofSocket socketId events).map ascii) =
          some ((messages.take (seen.flatten.count newline)).map ascii, ascii rest) := by
      rw [sent]
      apply receiveAll_frames right
      · intro piece member
        obtain ⟨chunk, inSeen, rfl⟩ := List.mem_map.mp member
        exact fun empty => nonemptySeen chunk inSeen (List.map_eq_nil_iff.mp empty)
      · exact List.not_mem_nil
      · intro line _
        trivial
      · rw [List.nil_append, text]
        exact decoded
    exact (serverDataAll_socket events present alone).symm

/-- Two messages, cut in the middle of the first one and before its newline. -/
private def cutStream : List Bytes := [[123], [125], [10, 123, 125, 10]]

private theorem cutStream_lines : ∀ message ∈ [[123, 125], [123, 125]], Line message := by
  intro message member
  have same : message = [123, 125] := by
    rcases List.mem_cons.mp member with first | second
    · exact first
    · exact List.mem_singleton.mp second
  rw [same]
  exact ⟨nofun, by decide, by decide⟩

theorem framing_ignores_cuts_two_messages :
    ∃ rest, receiveAll addrpoolReceive [] cutStream = some ([[123, 125], [123, 125]], rest) := by
  obtain ⟨rest, -, -, received, -⟩ := framing_ignores_cuts [[123, 125], [123, 125]]
    cutStream_lines cutStream (by decide) (by decide) cutStream (List.prefix_refl _)
  exact ⟨rest, received⟩

end Framing
end NatPorte
