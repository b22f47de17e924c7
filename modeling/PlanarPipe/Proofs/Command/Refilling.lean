import PlanarPipe.Command.RawFile
import PlanarPipe.Proofs.Video.Packed

/-!
# One buffer for all frames

A file is read frame by frame into one buffer, with calls that may be interrupted and that may give fewer bytes
than fit (`RawFile.Supply.read`). The calls go on until the buffer is full or nothing is left. In the second case
what was left stands at the front of the buffer, and behind it what stood there before, which is a part of the last
frame (`RawFile.fill_eq`); as nothing is sent then, none of it shows. Main statement: `RawFile.sendThrough_eq`.
-/

namespace PlanarPipe

/-- A byte string with another one written over it from a place on. -/
def Bytes.overwrite (data : Bytes) (place : Nat) (chunk : Bytes) : Bytes :=
  data.take place ++ chunk ++ data.drop (place + chunk.length)

namespace Bytes

variable {data a b : Bytes} {place : Nat}

/-- Nothing that is written changes nothing. -/
lemma overwrite_nil (data : Bytes) (place : Nat) : data.overwrite place [] = data := by
  rw [overwrite, List.append_nil]
  exact List.take_append_drop place data

/-- Writing over bytes does not make them more. -/
lemma length_overwrite (inside : place + a.length ≤ data.length) : (data.overwrite place a).length = data.length := by
  simp only [overwrite, List.length_append, List.length_take, List.length_drop]
  omega

/-- What is written piece by piece is written at once. -/
lemma overwrite_overwrite (inside : place ≤ data.length) :
    (data.overwrite place a).overwrite (place + a.length) b = data.overwrite place (a ++ b) := by
  have front : (data.take place ++ a).length = place + a.length := by
    rw [List.length_append, List.length_take, Nat.min_eq_left inside]
  rw [overwrite, overwrite, overwrite, ← front, List.take_left, List.drop_append, front, Nat.add_sub_cancel_left,
    List.drop_eq_nil_of_le (by omega), List.nil_append, List.drop_drop, List.length_append, ← List.append_assoc,
    Nat.add_assoc]

/-- Nothing is left of a byte string that is written over as a whole. -/
lemma overwrite_whole (whole : a.length = data.length) : data.overwrite 0 a = a := by
  rw [overwrite, List.take_zero, List.nil_append, Nat.zero_add, whole, List.drop_length, List.append_nil]

end Bytes

/-- A frame is not longer than the bytes that it is made of. -/
lemma Frame.frameBytes_le_of_ofPacked {size : Size} {data : Bytes} {pts : Option Int64} {f : Frame}
    (made : ofPacked size data pts = .ok f) : size.frameBytes ≤ data.length := by
  rw [ofPacked] at made
  split at made
  case isTrue => cases made
  case isFalse long => exact Nat.not_lt.1 long

namespace RawFile

/-- How the system answers a read call. -/
inductive ReadAnswer where
  | interrupted
  /-- Bytes are read, at most one more than told. -/
  | upTo (extra : Nat)

/-- What is left of a file, and how the next read calls are answered. Those after them read all that fits. -/
structure Supply where
  left : Bytes
  answers : List ReadAnswer := []

/-- One read call for at most `room` bytes, which gives no bytes only if it is interrupted or none are left. -/
def Supply.read (s : Supply) (room : Nat) : Option Bytes × Supply :=
  match s.answers with
  | [] => (some (s.left.take room), { s with left := s.left.drop room })
  | .interrupted :: later => (none, { s with answers := later })
  | .upTo extra :: later =>
    let count := min (extra + 1) room
    (some (s.left.take count), { left := s.left.drop count, answers := later })

namespace Supply

variable {s s' : Supply} {room : Nat} {chunk : Bytes}

/-- A bound on the read calls that do not just report the end. -/
def weight (s : Supply) : Nat := s.left.length + s.answers.length

/-- A read call that is interrupted takes nothing, and there are fewer such calls to come. -/
lemma read_none (interrupted : s.read room = (none, s')) : s'.left = s.left ∧ s'.weight < s.weight := by
  rw [read] at interrupted
  split at interrupted
  case h_1 | h_3 => exact absurd (congrArg Prod.fst interrupted) nofun
  case h_2 later answers =>
    obtain rfl := (congrArg Prod.snd interrupted)
    refine ⟨rfl, ?_⟩
    rw [weight, weight, answers]
    exact Nat.lt_succ_self _

/-- What a read call gives comes off the front of what is left. -/
lemma read_some (some : s.read room = (some chunk, s')) :
    s.left = chunk ++ s'.left ∧ chunk.length ≤ room ∧ (chunk = [] → 0 < room → s.left = []) ∧
      s'.weight + chunk.length ≤ s.weight := by
  have taken : ∃ count, chunk = s.left.take count ∧ s'.left = s.left.drop count ∧ count ≤ room ∧
      (0 < room → 0 < count) ∧ s'.answers.length ≤ s.answers.length := by
    rw [read] at some
    split at some
    case h_1 =>
      cases some
      exact ⟨room, rfl, rfl, Nat.le_refl room, id, Nat.le_refl _⟩
    case h_2 => exact absurd (congrArg Prod.fst some) nofun
    case h_3 extra later answers =>
      cases some
      refine ⟨min (extra + 1) room, rfl, rfl, Nat.min_le_right .., fun room => ?_, ?_⟩
      · exact Nat.lt_min.2 ⟨extra.succ_pos, room⟩
      · rw [answers]
        exact Nat.le_succ _
  obtain ⟨count, rfl, left, fits, more, answers⟩ := taken
  refine ⟨?_, ?_, fun none room => ?_, ?_⟩
  · rw [left, List.take_append_drop]
  · rw [List.length_take]
    omega
  · exact (List.take_eq_nil_iff.1 none).resolve_left (Nat.ne_of_gt (more room))
  · rw [weight, weight, left, List.length_take, List.length_drop]
    omega

end Supply

/-- What comes of reading into a buffer. -/
structure Filling where
  buffer : Bytes
  supply : Supply
  full : Bool

/-- Reads into a buffer, behind the bytes that were read already, until it is full or nothing is left. -/
def fill (buffer : Bytes) (filled : Nat) (supply : Supply) : Filling :=
  if filled < buffer.length then
    match _h : supply.read (buffer.length - filled) with
    | (none, supply) => fill buffer filled supply
    | (some [], supply) => { buffer, supply, full := false }
    | (some (b :: chunk), supply) =>
      fill (buffer.overwrite filled (b :: chunk)) (filled + (b :: chunk).length) supply
  else { buffer, supply, full := true }
termination_by supply.weight
decreasing_by
  · exact (Supply.read_none _h).2
  · have := (Supply.read_some _h).2.2.2
    rw [List.length_cons] at this
    omega

/-- While the buffer is not full, one more call is made. -/
lemma fill_step {buffer : Bytes} {filled : Nat} {supply : Supply} (more : filled < buffer.length) :
    fill buffer filled supply =
      match supply.read (buffer.length - filled) with
      | (none, supply) => fill buffer filled supply
      | (some [], supply) => { buffer, supply, full := false }
      | (some (b :: chunk), supply) =>
        fill (buffer.overwrite filled (b :: chunk)) (filled + (b :: chunk).length) supply := by
  rw [fill, if_pos more]
  split
  case h_1 read | h_2 read | h_3 read => rw [read]

/-- Reading writes what is left of a file over the buffer, as far as it fits, and the buffer is full just if there
is enough of it. -/
lemma fill_eq {buffer : Bytes} {filled : Nat} {supply : Supply} (inside : filled ≤ buffer.length) :
    (fill buffer filled supply).buffer = buffer.overwrite filled (supply.left.take (buffer.length - filled)) ∧
      ((fill buffer filled supply).full = true ↔ buffer.length - filled ≤ supply.left.length) ∧
      (fill buffer filled supply).supply.left = supply.left.drop (buffer.length - filled) := by
  -- along the loop: `filled` bytes of the buffer are done, and what is left of the file belongs behind them
  induction buffer, filled, supply using fill.induct with
  | case1 buffer filled supply more later interrupted ih =>
    obtain ⟨left, -⟩ := Supply.read_none interrupted
    rw [fill_step more, interrupted, ← left]
    exact ih inside
  | case2 buffer filled supply more later ended =>
    obtain ⟨left, -, none, -⟩ := Supply.read_some ended
    have room : 0 < buffer.length - filled := Nat.sub_pos_of_lt more
    have empty := none rfl room
    rw [fill_step more, ended, empty, List.take_nil, List.drop_nil, Bytes.overwrite_nil]
    exact ⟨rfl, ⟨nofun, fun enough => absurd enough (Nat.not_le.2 room)⟩, left.symm.trans empty⟩
  | case3 buffer filled supply more b chunk later read ih =>
    obtain ⟨left, fits, -, -⟩ := Supply.read_some read
    have within : filled + (b :: chunk).length ≤ buffer.length := by omega
    rw [Bytes.length_overwrite within] at ih
    obtain ⟨content, full, rest⟩ := ih within
    rw [← Nat.sub_sub] at content full rest
    rw [fill_step more, read, left, List.take_append, List.take_of_length_le fits, List.drop_append,
      List.drop_eq_nil_of_le fits, List.nil_append, List.length_append, ← Bytes.overwrite_overwrite inside]
    exact ⟨content, full.trans Nat.sub_le_iff_le_add', rest⟩
  | case4 buffer filled supply full =>
    have room : buffer.length - filled = 0 := Nat.sub_eq_zero_of_le (Nat.not_lt.1 full)
    rw [fill, if_neg full, room, List.take_zero, List.drop_zero, Bytes.overwrite_nil]
    exact ⟨rfl, ⟨fun _ => Nat.zero_le _, fun _ => rfl⟩, rfl⟩

/-- Reading into a buffer leaves as many bytes fewer as the buffer has, if it is full afterwards. -/
lemma fill_full {buffer : Bytes} {supply : Supply} (full : (fill buffer 0 supply).full = true) :
    (fill buffer 0 supply).buffer = supply.left.take buffer.length ∧
      (fill buffer 0 supply).supply.left = supply.left.drop buffer.length ∧ buffer.length ≤ supply.left.length := by
  obtain ⟨content, enough, rest⟩ := @fill_eq buffer 0 supply (Nat.zero_le _)
  have long := enough.1 full
  rw [Nat.sub_zero] at content rest long
  refine ⟨content.trans (Bytes.overwrite_whole ?_), rest, long⟩
  rw [List.length_take, Nat.min_eq_left long]

/-- Sends the frames of a file, each read into the buffer where the one before it was. -/
def sendThrough (size : Size) (index : Nat) (s : Session) (outlet : Outlet) (buffer : Bytes) (supply : Supply) :
    Sending :=
  let filling := fill buffer 0 supply
  if _full : filling.full then
    match _made : Frame.ofPacked size filling.buffer (some (Int64.ofNat index)) with
    | .error cause => { session := s, halt := .unmade cause, frames := index }
    | .ok frame =>
      let pushed := s.push frame outlet
      match pushed.failure with
      | some cause =>
        { session := pushed.session, halt := .unsent cause, frames := index, calls := pushed.calls }
      | none =>
        let later := sendThrough size (index + 1) pushed.session pushed.outlet filling.buffer filling.supply
        { later with calls := pushed.calls ++ later.calls }
  else { session := s, halt := .spent, frames := index }
termination_by supply.left.length
decreasing_by
  obtain ⟨content, rest, long⟩ := fill_full _full
  have some := Frame.frameBytes_pos_of_ofPacked _made
  have fits := Frame.frameBytes_le_of_ofPacked _made
  rw [content, List.length_take] at fits
  rw [rest, List.length_drop]
  omega

/-- Pushes one frame, and sends what comes after it unless that fails. -/
def pushThen (index : Nat) (s : Session) (outlet : Outlet) (made : Except FrameError Frame)
    (later : Session → Outlet → Sending) : Sending :=
  match made with
  | .error cause => { session := s, halt := .unmade cause, frames := index }
  | .ok frame =>
    let pushed := s.push frame outlet
    match pushed.failure with
    | some cause => { session := pushed.session, halt := .unsent cause, frames := index, calls := pushed.calls }
    | none =>
      let later := later pushed.session pushed.outlet
      { later with calls := pushed.calls ++ later.calls }

section

variable (size : Size) (index : Nat) (s : Session) (outlet : Outlet)

/-- Too few bytes for a frame end the sending. -/
lemma send_short {data : Bytes} (short : data.length < size.frameBytes) :
    send size index s outlet data = { session := s, halt := .spent, frames := index } := by
  rw [send, if_pos short]

/-- Bytes for a frame are pushed as one, and then the others are sent. -/
lemma send_long {data : Bytes} (long : ¬ data.length < size.frameBytes) :
    send size index s outlet data =
      pushThen index s outlet (Frame.ofPacked size (data.take size.frameBytes) (some (Int64.ofNat index)))
        fun s outlet => send size (index + 1) s outlet (data.drop size.frameBytes) := by
  rw [send, if_neg long]
  split
  case h_1 made | h_2 made =>
    rw [made]
    rfl

/-- A buffer that cannot be filled ends the sending. -/
lemma sendThrough_short {buffer : Bytes} {supply : Supply} (short : supply.left.length < buffer.length) :
    sendThrough size index s outlet buffer supply = { session := s, halt := .spent, frames := index } := by
  have unfilled : ¬ (fill buffer 0 supply).full = true := fun full => Nat.not_le.2 short (fill_full full).2.2
  rw [sendThrough, dif_neg unfilled]

/-- A buffer that is filled is pushed as a frame, and then it is filled again. -/
lemma sendThrough_full {buffer : Bytes} {supply : Supply} (long : buffer.length ≤ supply.left.length) :
    sendThrough size index s outlet buffer supply =
      pushThen index s outlet (Frame.ofPacked size (fill buffer 0 supply).buffer (some (Int64.ofNat index)))
        fun s outlet => sendThrough size (index + 1) s outlet (fill buffer 0 supply).buffer
          (fill buffer 0 supply).supply := by
  rw [sendThrough, dif_pos ((fill_eq (Nat.zero_le _)).2.1.2 long)]
  split
  case h_1 made | h_2 made =>
    rw [made]
    rfl

end

/-- However the bytes of a file come, and whatever is in the buffer at first, the loop sends the frames that the
file holds. -/
theorem sendThrough_eq {size : Size} {buffer : Bytes} (fits : buffer.length = size.frameBytes) (index : Nat)
    (s : Session) (outlet : Outlet) (supply : Supply) :
    sendThrough size index s outlet buffer supply = send size index s outlet supply.left := by
  induction count : supply.left.length using Nat.strongRecOn generalizing index s outlet buffer supply with
  | ind _ ih =>
    by_cases short : supply.left.length < size.frameBytes
    · rw [send_short _ _ _ _ short, sendThrough_short _ _ _ _ (fits ▸ short)]
    · have long : buffer.length ≤ supply.left.length := by omega
      obtain ⟨content, rest, -⟩ := fill_full ((fill_eq (Nat.zero_le _)).2.1.2 long)
      rw [send_long _ _ _ _ short, sendThrough_full _ _ _ _ long, content, fits]
      cases made : Frame.ofPacked size (supply.left.take size.frameBytes) (some (Int64.ofNat index)) with
      | error => rfl
      | ok frame =>
        have some := Frame.frameBytes_pos_of_ofPacked made
        -- the buffer holds this frame now, and the rest of the file is sent through it
        have filled : (supply.left.take size.frameBytes).length = size.frameBytes := by
          rw [List.length_take]
          omega
        have fewer : (fill buffer 0 supply).supply.left.length < supply.left.length := by
          rw [rest, List.length_drop]
          omega
        refine congrArg (pushThen index s outlet (.ok frame)) (funext fun s => funext fun outlet => ?_)
        rw [ih _ (count ▸ fewer) filled _ _ _ _ rfl, rest, fits]

end RawFile

end PlanarPipe
