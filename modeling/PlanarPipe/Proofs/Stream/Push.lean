import PlanarPipe.Proofs.Stream.Books
import PlanarPipe.Proofs.Stream.Repacking
import PlanarPipe.Proofs.Stream.Transcript

/-!
# What one push does

A push makes the calls for the parts of its frame (`Performs`) and keeps what they come to (`Books`).
That is shown stage by stage: one write is one part (`Attempt.Hands.proceeds`), and stages that follow
each other are one list of parts (`Attempt.Proceeds.andThen`). `Encoder.push_performs` puts the stages
together. With an honest outlet a push then sends the records of its frame whole, or sends less and
stops the encoder (`Encoder.push_sends`).
-/

namespace PlanarPipe

namespace Frame

variable {f : Frame}

/-- The slices of a packed frame are its planes, row after row. -/
lemma slices_eq (packed : f.isPacked = true) :
    (Channel.all.map fun c => (f.packedPlane c).getD []) =
      Channel.all.map fun c => (f.rows c).flatten := by
  apply List.map_congr_left
  intro c mem
  have stride := List.all_eq_true.1 packed c mem
  rw [packedPlane_eq (eq_of_beq stride)]
  rfl

/-- A frame is announced just if its size is not the one announced last. -/
lemma announcement_mem_parts {announced : Size} :
    Part.announcement ∈ f.parts announced ↔ f.size ≠ announced := by
  rw [parts]
  split
  case isTrue same => exact ⟨nofun, absurd same⟩
  case isFalse new => exact ⟨fun _ => new, fun _ => List.mem_cons_self ..⟩

/-- The planes of a frame are written once. -/
lemma count_payload_parts (f : Frame) (announced : Size) :
    (f.parts announced).count .payload = 1 := by
  rw [parts]
  split <;> rfl

/-- Only room for a buffer can be missing. -/
lemma noRoom_of_bar {room : Nat → Bool} {held : Nat} {part : Part} {failure : WriteFailure}
    (barred : f.bar room held part = some failure) :
    ∃ size, failure = .noRoom size ∧ room size = false := by
  cases part with
  | announcement => cases barred
  | stamp => cases barred
  | payload =>
    rw [bar] at barred
    split at barred
    case isTrue cramped => exact ⟨f.size.frameBytes, (Option.some.inj barred).symm, cramped.2.2⟩
    case isFalse => cases barred

/-- Planes without padding need no buffer. -/
lemma bar_packed (packed : f.isPacked = true) (room : Nat → Bool) (held : Nat) (part : Part) :
    f.bar room held part = none := by
  cases part with
  | announcement | stamp => rfl
  | payload =>
    rw [bar, if_neg]
    rintro ⟨padded, -⟩
    rw [packed] at padded
    cases padded

/-- Where there is room for everything, nothing is missing. -/
lemma bar_plenty (f : Frame) (held : Nat) (part : Part) : f.bar Encoder.plenty held part = none := by
  cases part with
  | announcement | stamp => rfl
  | payload =>
    rw [bar, if_neg]
    rintro ⟨-, -, none⟩
    cases none

/-- Whether planes are offered in slices or in one piece, what is offered is the pixels. -/
lemma bytes_offer_payload (f : Frame) (timing : Timing) :
    (f.offer timing .payload).bytes = f.pixels := by
  rw [offer]
  split
  · rfl
  · rfl

/-- The planes are offered with the length that is counted for the size. -/
lemma length_offer_payload (exact : f.Exact) (timing : Timing) :
    (f.offer timing .payload).length = f.size.frameBytes := by
  rw [Offer.length_eq, bytes_offer_payload, exact]

end Frame

namespace Attempt

/-- The bytes that went out. -/
def taken (a : Attempt) : Bytes := a.calls.flatMap WriteCall.taken

def Honest (a : Attempt) : Prop := ∀ c ∈ a.calls, c.Honest

instance (a : Attempt) : Decidable a.Honest := inferInstanceAs (Decidable (∀ c ∈ _, _))

/-- What comes of writing one part: it is taken whole, or the attempt fails. -/
inductive Hands (a : Attempt) (part : Part) (offer : Offer) (settle : Attempt → Attempt) :
    Attempt → Prop where
  | whole {repeated last outlet} :
    Outlet.Asks (a.outlet.see offer) a.outlet repeated last outlet →
    last.answer = .ok offer.length →
    Hands a part offer settle (settle { a with outlet, calls := a.calls ++ (repeated ++ [last]) })
  | short {repeated last outlet failure} :
    Outlet.Asks (a.outlet.see offer) a.outlet repeated last outlet →
    judge offer.length last.answer = some failure →
    Hands a part offer settle
      { a with
        outlet, calls := a.calls ++ (repeated ++ [last])
        failure := some (.transportFailed part failure) }

/-- The calls `b` adds to those of `a` are made for some parts of a frame, and `b` keeps what they come
to. -/
def Proceeds (f : Frame) (bar : Part → Option WriteFailure) (a : Attempt) (parts : List Part)
    (b : Attempt) : Prop :=
  ∃ calls, b.calls = a.calls ++ calls ∧
    Performs (f.offer a.encoder.timing) bar a.outlet parts calls b.failure b.outlet ∧
    Books f a.encoder (tried parts calls) (accepted (f.offer a.encoder.timing) parts calls) b.encoder

variable {f : Frame} {a a' b : Attempt} {part : Part} {parts later : List Part} {offer : Offer}
  {settle next : Attempt → Attempt} {bar : Part → Option WriteFailure}

/-- An attempt that has not failed goes on. -/
lemma andThen_alive (alive : a.failure = none) : a.andThen next = next a := by
  rw [andThen, alive]
  rfl

/-- One that has failed stays as it is. -/
lemma andThen_failed (failed : a.failure.isSome = true) : a.andThen next = a := by
  rw [andThen, if_pos failed]

/-- A write went well just if the answer is the count expected. -/
lemma judge_eq_none {expected : Nat} {answer : Except IoError Nat} :
    judge expected answer = none ↔ answer = .ok expected := by
  cases answer with
  | error cause => simp [judge]
  | ok written => simp [judge]

/-- A write hands its part over whole, or the attempt fails. -/
lemma write_hands (a : Attempt) (part : Part) (offer : Offer) (settle : Attempt → Attempt) :
    a.Hands part offer settle (a.write part offer offer.length settle) := by
  have asks := Outlet.callsFor_asks (a.outlet.see offer) a.outlet
  rw [write]
  generalize Outlet.callsFor (a.outlet.see offer) a.outlet.replies = made at asks ⊢
  obtain ⟨repeated, last, replies⟩ := made
  simp only [List.append_assoc]
  split
  case h_1 whole => exact .whole asks (judge_eq_none.1 whole)
  case h_2 failure short => exact .short asks short

/-- What is done after a write that went well can be done at its end. -/
lemma andThen_write {expected : Nat}
    (alive : ∀ outlet calls, (settle { a with outlet, calls }).failure = none) :
    (a.write part offer expected settle).andThen next =
      a.write part offer expected fun b => next (settle b) := by
  rw [write, write]
  generalize Outlet.callsFor (a.outlet.see offer) a.outlet.replies = made
  obtain ⟨repeated, last, replies⟩ := made
  simp only
  split
  case h_1 => exact andThen_alive (alive _ _)
  case h_2 => rfl

/-- The calls of one write are made for one part. The attempt may have made ready for it before, and
`e` is what its encoder becomes if the part is taken whole. -/
lemma Hands.proceeds {e : Encoder}
    (hands : a'.Hands part (f.offer a.encoder.timing part) settle b) (free : bar part = none)
    (made : a'.calls = a.calls) (left : a'.outlet = a.outlet)
    (quiet : ∀ outlet calls,
      let b := settle { a' with outlet, calls }
      b.calls = calls ∧ b.outlet = outlet ∧ b.failure = none ∧ b.encoder = e)
    (ready : Books f a.encoder [part] [] a'.encoder) (settled : Books f a.encoder [part] [part] e) :
    Proceeds f bar a [part] b := by
  cases hands with
  | @whole repeated last outlet asks whole =>
    obtain ⟨calls, outlet, failure, encoder⟩ := quiet outlet (a'.calls ++ (repeated ++ [last]))
    refine ⟨repeated ++ [last], by rw [calls, made], ?_, ?_⟩
    · rw [failure, outlet]
      rw [left] at asks
      exact .taken free asks whole .done
    · rw [encoder, asks.tried_eq, asks.accepted_eq, if_pos (WriteCall.tookAll_iff.2 whole)]
      exact settled
  | @short repeated last outlet failure asks short =>
    have some : ¬last.tookAll (f.offer a.encoder.timing part).length = true := by
      intro all
      rw [judge_eq_none.2 (WriteCall.tookAll_iff.1 all)] at short
      cases short
    refine ⟨repeated ++ [last], by rw [made], ?_, ?_⟩
    · rw [left] at asks
      exact .cut free asks short
    · rw [asks.tried_eq, asks.accepted_eq, if_neg some]
      exact ready

/-- An attempt that has not failed has gone through no parts yet. -/
lemma Proceeds.nothing (alive : a.failure = none) : Proceeds f bar a [] a := by
  refine ⟨[], (List.append_nil _).symm, ?_, .nothing f a.encoder⟩
  rw [alive]
  exact .done

/-- Parts other than the planes need no buffer. -/
lemma Proceeds.scratch (proceeds : Proceeds f bar a parts b) (other : .payload ∉ parts) :
    b.encoder.scratch.size = a.encoder.scratch.size := by
  obtain ⟨calls, -, -, books⟩ := proceeds
  rw [books.scratch, if_neg]
  rintro ⟨mem, -⟩
  obtain ⟨⟨part, c⟩, mem, rfl⟩ := List.mem_map.1 mem
  exact other (List.of_mem_zip mem).1

/-- Stages that follow each other go through the parts of both. -/
lemma Proceeds.andThen (first : Proceeds f bar a parts b)
    (second : b.failure = none → Proceeds f bar b later (next b)) :
    Proceeds f bar a (parts ++ later) (b.andThen next) := by
  obtain ⟨calls, made, performs, books⟩ := first
  cases outcome : b.failure with
  | none =>
    obtain ⟨calls', made', performs', books'⟩ := second outcome
    rw [outcome] at performs
    rw [andThen_alive outcome]
    rw [books.timing] at performs' books'
    refine ⟨calls ++ calls', by rw [made', made, List.append_assoc], performs.append performs', ?_⟩
    rw [performs.tried_append, performs.accepted_append]
    exact books.trans books'
  | some failure =>
    rw [andThen_failed (Option.isSome_of_eq_some outcome)]
    rw [outcome] at performs
    refine ⟨calls, made, ?_, ?_⟩
    · rw [outcome]
      exact performs.stop later
    · rw [performs.tried_stop, performs.accepted_stop]
      exact books

/-- The announcement is a part unless the size is the one announced last. -/
lemma announce_proceeds (alive : a.failure = none) (free : bar .announcement = none) :
    Proceeds f bar a (if f.size = a.encoder.announced then [] else [.announcement])
      (a.announce f.size) := by
  rw [announce]
  split
  case isTrue => exact .nothing alive
  case isFalse =>
    refine (write_hands a .announcement (f.offer a.encoder.timing .announcement) _).proceeds
      (e := { a.encoder with
        announced := f.size, bytes := a.encoder.bytes + (Wire.encodeSize f.size).length })
      free rfl rfl (fun _ _ => ⟨rfl, rfl, alive, rfl⟩) ?_ ?_
    · exact ⟨rfl, rfl, rfl, rfl, rfl, rfl⟩
    · exact ⟨rfl, rfl, rfl, rfl, rfl, rfl⟩

/-- The time stamp is one part. -/
lemma stamp_proceeds (alive : a.failure = none) (free : bar .stamp = none) :
    Proceeds f bar a [.stamp] (a.stamp f.pts) := by
  let record := Wire.encodeStamp (a.encoder.timing.stamp f.pts)
  refine (write_hands a .stamp (f.offer a.encoder.timing .stamp) fun b => b.count record.length).proceeds
    (e := { a.encoder with bytes := a.encoder.bytes + record.length })
    free rfl rfl (fun _ _ => ⟨rfl, rfl, alive, rfl⟩) ?_ ?_
  · exact ⟨rfl, rfl, rfl, rfl, rfl, rfl⟩
  · exact ⟨rfl, rfl, rfl, rfl, rfl, rfl⟩

/-- The planes of a frame are one part, whether they are packed or not. -/
lemma payload_proceeds (room : Nat → Bool) (exact : f.Exact) (alive : a.failure = none) :
    Proceeds f (f.bar room a.encoder.scratch.size) a [.payload] (a.payload room f) := by
  have long : f.size.frameBytes = (f.offer a.encoder.timing .payload).length :=
    (Frame.length_offer_payload exact _).symm
  rw [payload]
  split
  case isTrue packed =>
    have slices : Offer.gather (Channel.all.map fun c => (f.packedPlane c).getD []) =
        f.offer a.encoder.timing .payload := by
      rw [Frame.slices_eq packed, Frame.offer, if_pos packed]
    have free := Frame.bar_packed packed room a.encoder.scratch.size .payload
    rw [payloadDirect, slices, long, andThen_write fun _ _ => alive]
    refine (write_hands a .payload (f.offer a.encoder.timing .payload) _).proceeds
      (e := { a.encoder with
        bytes := a.encoder.bytes + (f.offer a.encoder.timing .payload).length
        frames := a.encoder.frames + 1 })
      free rfl rfl (fun _ _ => ⟨rfl, rfl, alive, rfl⟩) ?_ ?_
    · exact ⟨rfl, rfl, rfl, rfl, rfl, by simp [packed]⟩
    · exact ⟨rfl, rfl, rfl, rfl, rfl, by simp [packed]⟩
  case isFalse padded =>
    rw [Bool.not_eq_true] at padded
    rcases a.payloadLaid_cases room f with ⟨cramped, events, refused⟩ | ⟨roomy, events, written⟩
    -- without room the part is barred: no call is made for it
    case inl =>
      rw [refused, andThen_failed rfl]
      refine ⟨[], (List.append_nil _).symm, .barred ?_, .nothing f a.encoder⟩
      rw [Frame.bar, if_pos ⟨padded, cramped⟩]
    case inr =>
      have free : f.bar room a.encoder.scratch.size .payload = none := by
        rw [Frame.bar, if_neg fun cramped => roomy cramped.2]
      have pixels : (Encoder.rowsOf f).flatten.length = f.size.frameBytes := by
        rw [Encoder.flatten_rowsOf, exact]
      have offer : Offer.single f.pixels = f.offer a.encoder.timing .payload := by
        rw [Frame.offer, padded]
        rfl
      have size : (Encoder.lay (Encoder.grow a.encoder.scratch f.size.frameBytes) 0
          (Encoder.rowsOf f)).1.size = max a.encoder.scratch.size f.size.frameBytes := by
        rw [Encoder.lay_eq, Encoder.size_overwrite, Encoder.size_grow]
      rw [written, Encoder.toList_laid _ pixels, Encoder.flatten_rowsOf, offer]
      -- the bytes are read out of the buffer by now, and of the buffer itself only the length is told
      generalize (Encoder.lay (Encoder.grow a.encoder.scratch f.size.frameBytes) 0
          (Encoder.rowsOf f)).1 = scratch at size ⊢
      rw [long, andThen_write fun _ _ => alive]
      refine (write_hands _ .payload (f.offer a.encoder.timing .payload) _).proceeds
        (e := { a.encoder with
          scratch
          bytes := a.encoder.bytes + (f.offer a.encoder.timing .payload).length
          frames := a.encoder.frames + 1 })
        free rfl rfl (fun _ _ => ⟨rfl, rfl, alive, rfl⟩) ?_ ?_
      · exact ⟨rfl, rfl, rfl, rfl, rfl, by simp [padded, size]⟩
      · exact ⟨rfl, rfl, rfl, rfl, rfl, by simp [padded, size]⟩

/-- Settling an attempt changes nothing but the state of a failed encoder, and what is told of it. -/
lemma settle_eq (a : Attempt) :
    a.settle.calls = a.calls ∧ a.settle.outlet = a.outlet ∧ a.settle.failure = a.failure ∧
      a.settle.encoder = { a.encoder with stopped := a.encoder.stopped || a.failure.isSome } := by
  rw [settle]
  split
  case h_1 alive => simp [alive]
  case h_2 error failed =>
    simp only [failed, Option.isSome_some, Bool.or_true]
    split
    case isTrue => exact ⟨rfl, rfl, rfl, rfl⟩
    case isFalse => split <;> exact ⟨rfl, rfl, rfl, rfl⟩

end Attempt

namespace Encoder

/-- The size announced last, if any was. -/
def current (e : Encoder) : Option Size := if e.announced = .unset then none else some e.announced

/-- What comes of pushing a frame of the given size whose records are `message`. -/
inductive Pushes (room : Nat → Bool) (e : Encoder) (outlet : Outlet) (message : Bytes) (size : Size)
    (a : Attempt) : Prop where
  /-- The push is acknowledged, and all of the records went out. -/
  | whole :
    a.failure = none →
    a.encoder.timing = e.timing →
    a.encoder.current = some size →
    a.encoder.stopped = false →
    (outlet = .unlimited → a.outlet = .unlimited ∧ a.Honest) →
    (a.Honest → a.taken = message) →
    Pushes room e outlet message size a
  /-- The push fails, and less of the records went out. -/
  | part :
    a.failure ≠ none →
    a.encoder.stopped = true →
    (outlet = .unlimited → ∃ size, room size = false) →
    (a.Honest → a.taken <+: message ∧ a.taken.length < message.length) →
    Pushes room e outlet message size a

variable {e : Encoder} {f : Frame} {room : Nat → Bool} {outlet : Outlet}

/-- A frame has the size that readers know of just if its size is the one announced last. -/
lemma current_eq_iff : e.current = some f.size ↔ f.size = e.announced := by
  rw [current]
  split
  case isTrue unset =>
    rw [unset]
    refine ⟨nofun, fun none => ?_⟩
    have pixels := f.size_ne
    rw [none] at pixels
    cases pixels
  case isFalse => rw [Option.some.injEq, eq_comm]

/-- What a frame is sent as: an announcement if the size is new, the time stamp, and the pixels. -/
lemma encodeAll_records (e : Encoder) (f : Frame) :
    encodeAll (f.records e.timing e.current) =
      (if f.size = e.announced then [] else Wire.encodeSize f.size) ++
        Wire.encodeStamp (e.timing.stamp f.pts) ++ f.pixels := by
  rw [Frame.records]
  simp only [current_eq_iff]
  split <;> simp [encodeAll, Record.encode, Frame.picture]

/-- The parts of a frame offer these bytes. -/
lemma bytes_parts (e : Encoder) (f : Frame) :
    ((f.parts e.announced).flatMap fun part => (f.offer e.timing part).bytes) =
      (if f.size = e.announced then [] else Wire.encodeSize f.size) ++
        Wire.encodeStamp (e.timing.stamp f.pts) ++ f.pixels := by
  have rest : ([.stamp, .payload].flatMap fun part => (f.offer e.timing part).bytes) =
      Wire.encodeStamp (e.timing.stamp f.pts) ++ f.pixels := by
    rw [List.flatMap_cons, List.flatMap_singleton, Frame.bytes_offer_payload]
    rfl
  rw [Frame.parts, List.flatMap_append, rest, List.append_assoc]
  split
  · rfl
  · rw [List.flatMap_singleton]
    rfl

/-- No part of a frame is empty. -/
lemma parts_ne_nil (exact : f.Exact) :
    ∀ part ∈ f.parts e.announced, (f.offer e.timing part).bytes ≠ [] := by
  intro part _
  rw [← List.length_pos_iff]
  cases part with
  | announcement =>
    rw [Frame.offer, Offer.bytes, Wire.length_encodeSize]
    decide
  | stamp =>
    rw [Frame.offer, Offer.bytes, Wire.length_encodeStamp]
    decide
  | payload =>
    rw [Frame.bytes_offer_payload, exact]
    exact Size.frameBytes_pos f.size_ne

/-- A frame of which every part was accepted is counted with all of its records, and its size is the one
announced last. -/
lemma books_whole {parts : List Part} {e' : Encoder} (books : Books f e parts (f.parts e.announced) e') :
    e'.announced = f.size ∧ e'.frames = e.frames + 1 ∧
      e'.bytes = e.bytes + (encodeAll (f.records e.timing e.current)).length := by
  refine ⟨?_, ?_, ?_⟩
  · rw [books.announced, ite_eq_left_iff, Frame.announcement_mem_parts, not_not]
    exact Eq.symm
  · rw [books.frames, Frame.count_payload_parts]
  · rw [books.bytes, encodeAll_records, ← bytes_parts, length_flatMap_offer]

/-- A push makes the calls for the parts of its frame, keeps what they come to, and ends the stream if it
fails. -/
lemma push_performs (room : Nat → Bool) (outlet : Outlet) (exact : f.Exact)
    (going : e.stopped = false) :
    let a := e.pushWithin room f outlet
    let parts := f.parts e.announced
    Performs (f.offer e.timing) (f.bar room e.scratch.size) outlet parts a.calls a.failure a.outlet ∧
      Books f e (tried parts a.calls) (accepted (f.offer e.timing) parts a.calls)
        { a.encoder with stopped := false } ∧
      a.encoder.stopped = a.failure.isSome := by
  let start : Attempt := { encoder := e, outlet }
  have announced : start.Proceeds f (f.bar room e.scratch.size) _ (start.announce f.size) :=
    Attempt.announce_proceeds rfl rfl
  have stamped := announced.andThen fun alive => Attempt.stamp_proceeds (f := f) alive rfl
  have short : Part.payload ∉ (if f.size = e.announced then [] else [.announcement]) ++ [.stamp] := by
    split <;> decide
  -- the buffer that the planes may need is still the one at the start
  have scratch := stamped.scratch short
  have whole := stamped.andThen fun alive => scratch ▸ Attempt.payload_proceeds room exact alive
  rw [List.append_assoc] at whole
  simp only [pushWithin, going, Bool.false_eq_true, if_false]
  change start.Proceeds f _ (f.parts e.announced) _ at whole
  generalize ((start.announce f.size).andThen _).andThen _ = a at whole
  obtain ⟨calls, made, performs, books⟩ := whole
  rw [List.nil_append] at made
  obtain ⟨sameCalls, sameOutlet, sameFailure, encoder⟩ := a.settle_eq
  have stopped : a.encoder.stopped = e.stopped := books.stopped
  rw [sameCalls, sameOutlet, sameFailure, encoder, made]
  refine ⟨performs, ?_, ?_⟩
  · have same : ({ a.encoder with stopped := false } : Encoder) = a.encoder := by
      rw [← going, ← stopped]
    change Books f e _ _ { a.encoder with stopped := false }
    rw [same]
    exact books
  · rw [stopped, going, Bool.false_or]

/-- A push that is acknowledged has sent the records of its frame, and any other less of them. -/
lemma push_sends (room : Nat → Bool) (outlet : Outlet) (exact : f.Exact) (going : e.stopped = false) :
    Pushes room e outlet (encodeAll (f.records e.timing e.current)) f.size
      (e.pushWithin room f outlet) := by
  obtain ⟨performs, books, stopped⟩ := push_performs room outlet exact going
  generalize e.pushWithin room f outlet = a at performs books stopped ⊢
  rw [encodeAll_records, ← bytes_parts]
  cases outcome : a.failure with
  | none =>
    rw [outcome] at performs stopped
    have timing := books.timing
    rw [performs.accepted_all] at books
    obtain ⟨announced, -, -⟩ := books_whole books
    refine .whole outcome timing (current_eq_iff.2 announced.symm) stopped (fun unlimited => ?_)
      fun honest => ?_
    · obtain ⟨-, fair, left⟩ := performs.generous (unlimited ▸ ⟨rfl, List.forall_mem_nil _⟩)
      exact ⟨(left (unlimited ▸ rfl)).trans unlimited, fair⟩
    · rcases performs.sends (parts_ne_nil exact) honest with ⟨-, all⟩ | ⟨failed, -⟩
      · exact all
      · exact absurd rfl failed
  | some failure =>
    rw [outcome] at performs stopped
    refine .part (by rw [outcome]; exact nofun) stopped (fun unlimited => ?_) fun honest => ?_
    -- an outlet that takes everything fails no write, so room was missing
    · obtain ⟨alive | ⟨part, -, barred⟩, -⟩ :=
        performs.generous (unlimited ▸ ⟨rfl, List.forall_mem_nil _⟩)
      · cases alive
      · obtain ⟨failure, barred⟩ := Option.ne_none_iff_exists'.1 barred
        obtain ⟨size, -, none⟩ := Frame.noRoom_of_bar barred
        exact ⟨size, none⟩
    · rcases performs.sends (parts_ne_nil exact) honest with ⟨alive, -⟩ | ⟨-, less⟩
      · cases alive
      · exact less

/-- A push on a stopped encoder makes no call and says why. -/
lemma push_stopped (f : Frame) (room : Nat → Bool) (outlet : Outlet) (stopped : e.stopped = true) :
    (e.pushWithin room f outlet).failure = some .stopped ∧
      (e.pushWithin room f outlet).calls = [] ∧
      (e.pushWithin room f outlet).encoder.stopped = true := by
  rw [pushWithin]
  simp [stopped]

end Encoder

end PlanarPipe
