import PlanarPipe.Proofs.Stream.Layout
import PlanarPipe.Proofs.Video.Packed

/-!
# Relaying a stream

A relay reads a stream to its end and writes each of its pictures as a frame without padding, with its
time stamp in microseconds (`Receiver.relayed`). All pictures come through as they are, for a time stamp
that was read is never taken for an announcement (`Picture.Sound`). What the relay drops are the
announcements that are not needed: those of the size announced before, and those that no picture follows.
A stream without any is concise, and the only one that a relay does not change
(`Wire.eq_script_of_concise`). Main statement: `Receiver.relaying_normalises`.
-/

namespace PlanarPipe

open Wire

/-- A signed word is within its own range. -/
lemma clampInt64_toInt (ticks : Int64) : clampInt64 ticks.toInt = ticks := by
  have least := ticks.minValue_le_toInt
  have most := ticks.toInt_le
  rw [clampInt64, Int.min_eq_right most, Int.max_eq_right least, Int64.ofInt_toInt]

/-- A tick that is a microsecond is counted as one, however it is rounded. -/
lemma TimeBase.micros_microseconds (rounding : Rounding) (ticks : Int64) :
    microseconds.micros rounding ticks = ticks := by
  -- a million microseconds to the second: the fraction is whole, so that there is nothing to round
  have whole : microseconds.magnitude rounding ticks = ticks.toInt.natAbs := by
    have scaled : microseconds.scaled ticks = ticks.toInt.natAbs * 1000000 := by
      rw [TimeBase.scaled]
      exact congrArg (· * 1000000) (Nat.mul_one _)
    have den : microseconds.den.toInt.toNat = 1000000 := rfl
    rw [magnitude, scaled, den]
    cases rounding with
    | towardZero => exact Nat.mul_div_cancel _ (by decide)
    | nearest =>
      simp only [Rounding.divide]
      omega
  rw [micros, whole]
  have same : (if ticks < 0 then -(ticks.toInt.natAbs : Int) else ticks.toInt.natAbs) = ticks.toInt := by
    split
    case isTrue before =>
      rw [Int64.lt_iff_toInt_lt, Int64.toInt_zero] at before
      omega
    case isFalse after =>
      rw [Int64.lt_iff_toInt_lt, Int64.toInt_zero] at after
      omega
  simp only [same, clampInt64_toInt]

/-- What is known of a picture that was read where up to `limit` bytes are allowed. -/
structure Picture.Sound (limit : Nat) (p : Picture) : Prop where
  pixels : p.size.isEmpty = false
  length : p.payload.length = p.size.exactBytes
  within : p.size.exactBytes ≤ limit
  untagged : ¬Tagged p.stamp

/-- A picture as a frame without padding. -/
def Picture.frame (p : Picture) : Except FrameError Frame :=
  Frame.ofPacked p.size p.payload (some p.stamp)

variable {p : Picture} {limit : Nat} {rounding : Rounding} {current : Option Size}
  {records : List Record} {frames : List Frame}

namespace Wire

/-- All pictures of a well-formed stream are sound. -/
lemma WellFormed.sound (wf : WellFormed limit current records)
    (announced : ∀ size, current = some size → size.isEmpty = false) (mem : .picture p ∈ records) :
    p.Sound limit := by
  induction wf with
  | nil => cases mem
  | @cons current r records fits _ ih =>
    have next : ∀ size, sizeAfter current r = some size → size.isEmpty = false := by
      cases fits with
      | announcement pixels =>
        rintro _ ⟨⟩
        exact pixels
      | picture => exact announced
    cases mem with
    | tail _ mem => exact ih next mem
    | head =>
      cases fits with
      | picture same length within untagged => exact ⟨announced _ same, length, within, untagged⟩

/-- Every picture of a stream that is well-formed from its start is sound. -/
lemma WellFormed.sound_pictures (wf : WellFormed limit none records) :
    ∀ p ∈ records.filterMap Record.picture?, p.Sound limit := by
  intro p mem
  obtain ⟨r, found, eq⟩ := List.mem_filterMap.1 mem
  cases r with
  | announcement size => cases eq
  | picture q =>
    obtain rfl := Option.some.inj eq
    exact wf.sound nofun found

end Wire

/-- What a relay makes of a picture: a frame that is sent as this picture. -/
structure Frame.Shows (limit : Nat) (p : Picture) (f : Frame) : Prop where
  size : f.size = p.size
  pts : f.pts = some p.stamp
  pixels : f.pixels = p.payload
  packed : f.isPacked = true
  sound : p.Sound limit

namespace Frame.Shows

variable {f : Frame}

/-- A frame that shows a picture is sent as that picture, however ticks are rounded. -/
lemma picture_eq (shows : f.Shows limit p) (rounding : Rounding) :
    f.picture ⟨.microseconds, rounding⟩ = p := by
  rw [Frame.picture, shows.pts, shows.size, shows.pixels, Timing.stamp, TimeBase.micros_microseconds]

/-- What such a frame is sent as fits where its size has been announced. -/
lemma fits (shows : f.Shows limit p) (rounding : Rounding) :
    (Record.picture (f.picture ⟨.microseconds, rounding⟩)).Fits (some f.size) limit := by
  obtain ⟨-, length, within, untagged⟩ := shows.sound
  rw [shows.picture_eq, shows.size]
  exact .picture rfl length within untagged

/-- Such a frame has as many bytes as its size says. -/
lemma exact (shows : f.Shows limit p) (small : limit + stampLength ≤ Bytes.maxWord) : f.Exact := by
  obtain ⟨-, length, within, -⟩ := shows.sound
  have counted : p.size.exactBytes ≤ Bytes.maxWord := by omega
  rw [Frame.Exact, shows.pixels, shows.size, length, Size.frameBytes_of_le counted]

end Frame.Shows

/-- A sound picture makes a frame that shows it. -/
lemma Picture.Sound.frame (sound : p.Sound limit) : ∃ f, p.frame = .ok f ∧ f.Shows limit p := by
  obtain ⟨f, made, size, pts, pixels, packed⟩ :=
    Frame.exists_ofPacked sound.pixels (Nat.le_of_eq sound.length.symm) (some p.stamp)
  rw [← sound.length, List.take_length] at pixels
  exact ⟨f, made, size, pts, pixels, packed, sound⟩

/-- Each picture of a list makes a frame, if all of them are sound. -/
lemma mapM_frame {pictures : List Picture} (sound : ∀ p ∈ pictures, p.Sound limit) :
    ∃ frames, pictures.mapM Picture.frame = .ok frames ∧
      (∀ rounding, frames.map (Frame.picture ⟨.microseconds, rounding⟩) = pictures) ∧
      ∀ f ∈ frames, ∃ p, f.Shows limit p := by
  induction pictures with
  | nil => exact ⟨[], rfl, fun _ => rfl, List.forall_mem_nil _⟩
  | cons p pictures ih =>
    obtain ⟨first, later⟩ := List.forall_mem_cons.1 sound
    obtain ⟨f, made, shows⟩ := first.frame
    obtain ⟨frames, rest, pictures, all⟩ := ih later
    refine ⟨f :: frames, ?_, fun rounding => ?_, List.forall_mem_cons.2 ⟨⟨p, shows⟩, all⟩⟩
    · rw [List.mapM_cons, made, rest]
      rfl
    · rw [List.map_cons, shows.picture_eq, pictures]

namespace Wire

/-- Each announcement is of another size than the one before it, and a picture follows it at once.
`current` was announced before the first record. -/
def Concise (current : Option Size) (records : List Record) : Prop :=
  ∀ before size after, records = before ++ .announcement size :: after →
    sizeAfterAll current before ≠ some size ∧ ∃ p later, after = .picture p :: later

/-- A stream is concise just if its first record is an announcement that had to be made, or a picture, and the rest
is concise after it. -/
lemma concise_cons_iff {r : Record} :
    Concise current (r :: records) ↔
      (∀ size, r = .announcement size →
        current ≠ some size ∧ ∃ p later, records = .picture p :: later) ∧
      Concise (sizeAfter current r) records := by
  constructor
  · intro concise
    refine ⟨?_, ?_⟩
    · rintro size rfl
      exact concise [] size records rfl
    · intro before size after split
      exact concise (r :: before) size after (congrArg (r :: ·) split)
  · rintro ⟨first, later⟩ before size after split
    cases before with
    | nil =>
      obtain ⟨rfl, rfl⟩ := List.cons.inj split
      exact first size rfl
    | cons r' before =>
      obtain ⟨rfl, rest⟩ := List.cons.inj split
      exact later before size after rest

/-- What a writer sends is concise. -/
lemma concise_script (timing : Timing) (current : Option Size) (frames : List Frame) :
    Concise current (script timing current frames) := by
  induction frames generalizing current with
  | nil =>
    intro before size after split
    cases List.nil_eq_append_iff.1 split |>.2
  | cons f frames ih =>
    have shown : ∀ size, Record.picture (f.picture timing) = .announcement size →
        some f.size ≠ some size ∧ ∃ p later, script timing (some f.size) frames = .picture p :: later :=
      nofun
    have rest := concise_cons_iff.2 ⟨shown, ih (some f.size)⟩
    rw [script, Frame.records]
    split
    case isTrue same =>
      rw [same]
      exact rest
    case isFalse differ =>
      refine concise_cons_iff.2 ⟨?_, rest⟩
      rintro size ⟨⟩
      exact ⟨differ, _, _, rfl⟩

/-- A concise stream is what a writer sends for frames that show its pictures. -/
lemma eq_script_of_concise {timing : Timing} (wf : WellFormed limit current records)
    (concise : Concise current records)
    (pictures : frames.map (Frame.picture timing) = records.filterMap Record.picture?) :
    records = script timing current frames := by
  -- frame by frame: a record that is no picture is followed by one
  induction frames generalizing current records with
  | nil =>
    cases records with
    | nil => rfl
    | cons r records =>
      cases r with
      | picture p => cases pictures
      | announcement size =>
        obtain ⟨-, p, later, rfl⟩ := (concise_cons_iff.1 concise).1 size rfl
        cases pictures
  | cons f frames ih =>
    cases records with
    | nil => cases pictures
    | cons r records =>
      obtain ⟨first, rest⟩ := concise_cons_iff.1 concise
      cases wf with
      | cons fits wf =>
        cases r with
        | picture p =>
          obtain ⟨rfl, others⟩ := List.cons.inj pictures
          cases fits with
          | picture same =>
            have next := ih wf rest others
            rw [script, Frame.records, if_pos same]
            rw [next, sizeAfter, same]
            rfl
        | announcement size =>
          obtain ⟨differ, p, later, rfl⟩ := first size rfl
          obtain ⟨rfl, others⟩ := List.cons.inj pictures
          obtain ⟨-, rest⟩ := concise_cons_iff.1 rest
          cases wf with
          | cons fits wf =>
            cases fits with
            | picture same =>
              obtain rfl := Option.some.inj same
              have next := ih wf rest others
              rw [script, Frame.records, if_neg differ, next]
              rfl

end Wire

/-- An outlet that takes everything acknowledges every frame that needs no buffer, and gets its records. -/
lemma Encoder.pushAll_acknowledges (e : Encoder) (room : Nat → Bool) (outlet : Outlet)
    (exact : ∀ f ∈ frames, f.Exact) (packed : ∀ f ∈ frames, f.isPacked = true)
    (going : e.stopped = false) (generous : outlet.Generous) :
    (∀ a ∈ e.pushAll room outlet frames, a.failure = none) ∧
      sent (e.pushAll room outlet frames) = encodeAll (script e.timing e.current frames) := by
  induction frames generalizing e outlet with
  | nil => exact ⟨List.forall_mem_nil _, rfl⟩
  | cons f frames ih =>
    obtain ⟨exact, exacts⟩ := List.forall_mem_cons.1 exact
    obtain ⟨packed, packeds⟩ := List.forall_mem_cons.1 packed
    have push := push_acknowledges exact going generous (Frame.bar_packed packed room _)
    rw [pushAll]
    generalize e.pushWithin room f outlet = a at push ⊢
    obtain ⟨alive, sends⟩ := ih a.encoder a.outlet exacts packeds push.going push.generous
    have current := current_eq_iff.2 push.announced.symm
    refine ⟨List.forall_mem_cons.2 ⟨push.alive, alive⟩, ?_⟩
    rw [sent_cons, push.taken, sends, push.timing, current, script, encodeAll_append]

/-- The records of frames that show pictures are well-formed. -/
lemma script_wellFormed_of_shows (shows : ∀ f ∈ frames, ∃ p, f.Shows limit p) (rounding : Rounding) :
    WellFormed limit none (script ⟨.microseconds, rounding⟩ none frames) := by
  apply script_wellFormed_of_fits
  intro f mem
  obtain ⟨p, shows⟩ := shows f mem
  exact shows.fits rounding

/-- The frames of a relay are all acknowledged, and sent as the pictures that they show. -/
lemma session_of_shows (shows : ∀ f ∈ frames, ∃ p, f.Shows limit p)
    (small : limit + stampLength ≤ Bytes.maxWord) (rounding : Rounding) (room : Nat → Bool)
    {outlet : Outlet} (generous : outlet.Generous) :
    let attempts := session ⟨.microseconds, rounding⟩ room outlet frames
    (∀ a ∈ attempts, a.failure = none) ∧
      sent attempts = encodeAll (script ⟨.microseconds, rounding⟩ none frames) := by
  have exact : ∀ f ∈ frames, f.Exact := by
    intro f mem
    obtain ⟨p, shows⟩ := shows f mem
    exact shows.exact small
  have packed : ∀ f ∈ frames, f.isPacked = true := by
    intro f mem
    obtain ⟨p, shows⟩ := shows f mem
    exact shows.packed
  let e : Encoder := .start ⟨.microseconds, rounding⟩
  exact e.pushAll_acknowledges room outlet exact packed rfl generous

namespace Receiver

/-- The pictures that come from a source, each as a frame without padding. -/
def relayed (source : Source) (limit : Nat) : Except FrameError (List Frame) :=
  ((start source limit).records.1.filterMap Record.picture?).mapM Picture.frame

variable {source : Source}

/-- What is read without an error is a well-formed stream, and all of the bytes. -/
lemma wellFormed_of_records (steady : source.Steady)
    (clean : (start source limit).records.2.1 = none) :
    WellFormed limit none (start source limit).records.1 ∧
      source.data = encodeAll (start source limit).records.1 := by
  obtain ⟨found, told⟩ := records_of_decodeAll steady (Prod.eta (decodeAll source.data none limit)).symm
  rw [clean, eq_comm, endingOf_eq_none] at told
  have sound := decodeAll_sound (Prod.ext found.symm told)
  rwa [List.append_nil] at sound

/-- A stream that was read to its end without an error is relayed whole: every picture makes a frame, and
an outlet that takes everything acknowledges it. Read again, what was sent gives the same pictures, with
one announcement for each maximal run of one size, and relayed again it gives the same bytes. It is the
stream that it was made of exactly if each announcement in that one was of a new size and a picture
followed it at once. -/
theorem relaying_normalises (source : Source) (limit : Nat) (rounding : Rounding) (room : Nat → Bool)
    (outlet : Outlet) (small : limit + stampLength ≤ Bytes.maxWord) (steady : source.Steady)
    (clean : (start source limit).records.2.1 = none) (generous : outlet.Generous) :
    ∃ frames, relayed source limit = .ok frames ∧
      let attempts := session ⟨.microseconds, rounding⟩ room outlet frames
      (∀ a ∈ attempts, a.failure = none) ∧
      (∀ source', source'.Steady → source'.data = sent attempts →
        (start source' limit).records.1 = transcript ⟨.microseconds, rounding⟩ frames ∧
        (start source' limit).records.2.1 = none ∧
        (start source' limit).records.1.filterMap Record.picture? =
          (start source limit).records.1.filterMap Record.picture? ∧
        relayed source' limit = .ok frames ∧
        ∀ rounding' room' outlet', Outlet.Generous outlet' →
          sent (session ⟨.microseconds, rounding'⟩ room' outlet' frames) = sent attempts) ∧
      (sent attempts = source.data ↔ Concise none (start source limit).records.1) := by
  obtain ⟨wf, whole⟩ := wellFormed_of_records steady clean
  obtain ⟨frames, made, pictures, shows⟩ := mapM_frame wf.sound_pictures
  have fits := fun rounding => script_wellFormed_of_shows shows rounding
  obtain ⟨alive, bytes⟩ := session_of_shows shows small rounding room generous
  refine ⟨frames, made, alive, fun source' steady' handed => ?_, ?_⟩
  · have read := (fits rounding).decodeAll_eq small
    rw [← bytes, ← handed] at read
    obtain ⟨found, told⟩ := records_of_decodeAll steady' read
    have same : (start source' limit).records.1.filterMap Record.picture? =
        (start source limit).records.1.filterMap Record.picture? := by
      rw [found, pictures_script, pictures]
    refine ⟨found.trans (transcript_eq ..).symm, told, same, by rw [relayed, same]; exact made, ?_⟩
    intro rounding' room' outlet' generous'
    have again := (session_of_shows shows small rounding' room' generous').2
    -- both streams are concise and have the same pictures, and there is only one such stream
    have script : script ⟨.microseconds, rounding'⟩ none frames =
        script ⟨.microseconds, rounding⟩ none frames := by
      apply eq_script_of_concise (fits rounding') (concise_script _ none frames)
      rw [pictures_script, pictures, pictures]
    rw [again, bytes, script]
  · rw [bytes, whole]
    constructor
    · intro same
      have one := (fits rounding).decodeAll_eq small
      rw [same, wf.decodeAll_eq small] at one
      rw [(Prod.mk.inj one).1]
      exact concise_script _ none frames
    · intro concise
      rw [← eq_script_of_concise wf concise (pictures rounding)]

/-- A size announced twice and one announced for nothing, time stamps at both ends of what a word holds,
and a size with odd sides. -/
def wordyRecords : List Record :=
  [.announcement ⟨3, 1⟩, .announcement ⟨3, 1⟩, .picture ⟨Int64.minValue, ⟨3, 1⟩, [7, 8, 9]⟩,
    .announcement ⟨3, 1⟩, .picture ⟨Int64.maxValue, ⟨3, 1⟩, [7, 8, 9]⟩, .announcement ⟨1, 1⟩]

/-- The relay of a stream that is longer than it needs to be is shorter. -/
theorem relaying_normalises_wordy :
    let source := trickle (encodeAll wordyRecords)
    source.Steady ∧ (start source standardLimit).records.2.1 = none ∧
      ∃ frames, relayed source standardLimit = .ok frames ∧
        sent (session ⟨.microseconds, .nearest⟩ Encoder.plenty .unlimited frames) ≠ source.data := by
  intro source
  have steady := steady_trickle (encodeAll wordyRecords)
  have wf : WellFormed standardLimit none wordyRecords := by
    refine .cons (.announcement rfl) (.cons (.announcement rfl) ?_)
    refine .cons (.picture rfl rfl (by decide) (by decide)) (.cons (.announcement rfl) ?_)
    exact .cons (.picture rfl rfl (by decide) (by decide)) (.cons (.announcement rfl) .nil)
  have read := wf.decodeAll_eq (by decide)
  rw [← data_trickle (encodeAll wordyRecords)] at read
  obtain ⟨found, clean⟩ := records_of_decodeAll steady read
  obtain ⟨frames, made, -, -, iff⟩ := relaying_normalises source standardLimit .nearest Encoder.plenty
    .unlimited (by decide) steady clean ⟨rfl, List.forall_mem_nil _⟩
  refine ⟨steady, clean, frames, made, fun same => ?_⟩
  rw [iff, found] at same
  obtain ⟨-, p, later, next⟩ := same [] ⟨3, 1⟩ wordyRecords.tail rfl
  cases next

end Receiver

end PlanarPipe
