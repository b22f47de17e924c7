import PlanarPipe.Proofs.Stream.Persistence

/-!
# How much a receiver holds

A source may send what it likes, so what a receiver holds must be bounded by what the receiver does. It calls
the source only where decoding asks for more, and then it holds less than one record
(`Wire.of_decode_more`); a read call adds no more than was asked for, and every other step lets bytes go. Hence
the bound is kept by each step (`Receiver.Within.step`), and by all that comes up in a call
(`Receiver.During`). Main statement: `Receiver.backlog_bounded`.
-/

namespace PlanarPipe

namespace Source

/-- Every read call counts. -/
lemma reads_of_read {s s' : Source} {answer : Except IoError Bytes} (h : s.read = (answer, s')) :
    s'.reads = s.reads + 1 := by
  unfold read at h
  split at h
  case h_4 => split at h <;> cases h <;> rfl
  all_goals
    cases h
    rfl

end Source

namespace Wire

/-- The most bytes that can be the start of a record and not all of it: one less than an announcement
takes, or a picture of `limit` bytes. -/
def longestStart (limit : Nat) : Nat := max 11 (7 + limit)

variable {bytes : Bytes} {current : Option Size} {limit : Nat}

/-- Where more is asked for there is less than a record, and room is made for no more than one. -/
lemma of_decode_more {room : Nat} (h : decode bytes current limit = .more room) :
    bytes.length ≤ longestStart limit ∧ room ≤ stampLength + limit := by
  have decoded := decodes bytes current limit
  rw [h] at decoded
  rw [longestStart]
  cases decoded with
  | short few =>
    rw [length_tag] at few
    omega
  | begun _ _ cut =>
    rw [announcementLength] at cut
    omega
  | waiting _ _ within _ less =>
    rw [stampLength] at less ⊢
    omega

/-- Decoding leaves no more bytes than there were. -/
lemma length_left_le (bytes : Bytes) (current : Option Size) (limit : Nat) :
    ((decode bytes current limit).left bytes).length ≤ bytes.length := by
  cases d : decode bytes current limit with
  | more | unaddressable => exact Nat.le_refl _
  | record r rest => exact Nat.le_of_lt (length_lt_of_decode d)
  | malformed cause rest =>
    rcases of_decode_malformed d with ⟨size, -, whole⟩ | ⟨-, same⟩
    · rw [Decoded.left, whole, List.length_append]
      exact Nat.le_add_left ..
    · exact Nat.le_of_eq (congrArg List.length same)

end Wire

namespace Receiver

open Wire

/-- The receiver after a step. -/
def Progress.receiver : Progress → Receiver
  | .again r => r
  | .done _ r => r

/-- What comes up in a call for a record, step by step, with the receivers before and after it. -/
inductive Passes : Receiver → Receiver → Prop where
  | start {r} :
    Passes r r
  | again {r r' s} :
    r.advance = .again r' →
    Passes r' s →
    Passes r s
  | done {r what r'} :
    r.advance = .done what r' →
    Passes r r'

/-- What comes up in a call. One for a picture goes on behind an announcement. -/
inductive During : Request → Receiver → Receiver → Prop where
  | passes {request r s} :
    Passes r s →
    During request r s
  | absorbed {size r r' s} :
    r.nextRecord = (.record (.announcement size), r') →
    During .picture r' s →
    During .picture r s

/-- A receiver that takes pictures of up to `limit` bytes holds less than a record, and what one read call
added to that. -/
structure Within (limit : Nat) (r : Receiver) : Prop where
  same : r.limit = limit
  held : r.backlog.count ≤ longestStart limit + Source.readLength

variable {r r' s : Receiver} {request : Request} {limit : Nat}

/-- A receiver that has just started holds nothing. -/
lemma Within.start (source : Source) (limit : Nat) : Within limit (Receiver.start source limit) :=
  ⟨rfl, Nat.zero_le _⟩

/-- A read call is one call on the source, and it adds at most one chunk to the bytes held. -/
lemma readMore_receiver (r : Receiver) :
    r.readMore.receiver.limit = r.limit ∧ r.readMore.receiver.source.reads = r.source.reads + 1 ∧
      r.readMore.receiver.backlog.count ≤ r.backlog.count + Source.readLength := by
  unfold readMore
  split
  case h_1 source read => exact ⟨rfl, Source.reads_of_read read, Nat.le_add_right ..⟩
  case h_2 chunk source _ read =>
    refine ⟨rfl, Source.reads_of_read read, ?_⟩
    rw [Progress.receiver, Backlog.count_push]
    exact Nat.add_le_add_left (Source.length_of_read_ok read) _
  case h_3 cause source read =>
    split <;> exact ⟨rfl, Source.reads_of_read read, Nat.le_add_right ..⟩

/-- A step calls the source where more is asked for, and else it leaves the source alone and adds no
bytes. -/
lemma advance_receiver (r : Receiver) :
    r.AsksForMore ∧ r.advance = r.readMore ∨
      r.advance.receiver.limit = r.limit ∧ r.advance.receiver.source = r.source ∧
        r.advance.receiver.backlog.count ≤ r.backlog.count := by
  have fewer := length_left_le r.backlog.toList r.size r.limit
  rw [AsksForMore, advance_eq, r.backlog.count_eq_length]
  cases d : decode r.backlog.toList r.size r.limit with
  | more room => exact .inl ⟨⟨room, rfl⟩, rfl⟩
  | record record rest =>
    rw [d] at fewer
    exact .inr ⟨rfl, rfl, fewer⟩
  | malformed cause rest =>
    rw [d] at fewer
    exact .inr ⟨rfl, rfl, fewer⟩
  | unaddressable => exact .inr ⟨rfl, rfl, Nat.le_of_eq r.backlog.count_eq_length⟩

/-- A receiver asks for more only while it holds less than a record. -/
lemma Within.asks (within : r.Within limit) (asks : r.AsksForMore) :
    r.backlog.count ≤ longestStart limit := by
  obtain ⟨room, more⟩ := asks
  rw [r.backlog.count_eq_length, ← within.same]
  exact (of_decode_more more).1

/-- One step keeps a receiver within the bound: it reads only where there is room for a chunk. -/
lemma Within.step (within : r.Within limit) : r.advance.receiver.Within limit := by
  rcases r.advance_receiver with ⟨asks, reads⟩ | ⟨same, -, fewer⟩
  · obtain ⟨same, -, more⟩ := r.readMore_receiver
    rw [reads]
    exact ⟨same.trans within.same, Nat.le_trans more (Nat.add_le_add_right (within.asks asks) _)⟩
  · exact ⟨same.trans within.same, Nat.le_trans fewer within.held⟩

/-- Whatever comes up in a call for a record is within the bound as well. -/
lemma Within.passes (within : r.Within limit) (passes : Passes r s) : s.Within limit := by
  induction passes with
  | start => exact within
  | again again _ ih =>
    have next := within.step
    rw [again] at next
    exact ih next
  | done done =>
    have next := within.step
    rwa [done] at next

/-- The receiver that a call leaves comes up in it. -/
lemma passes_nextRecord (r : Receiver) : Passes r r.nextRecord.2 := by
  induction r using nextRecord.induct with
  | case1 r r' again ih =>
    rw [nextRecord_again again]
    exact .again again ih
  | case2 r what r' done =>
    rw [nextRecord_done done]
    exact .done done

/-- Whatever comes up in a call of any kind is within the bound. -/
lemma Within.during (within : r.Within limit) (during : During request r s) : s.Within limit := by
  induction during with
  | passes passes => exact within.passes passes
  | @absorbed _ r _ _ call _ ih =>
    have next := within.passes r.passes_nextRecord
    rw [call] at next
    exact ih next

/-- The receiver that a call for a picture leaves comes up in it. -/
lemma during_nextPicture (r : Receiver) : During .picture r r.nextPicture.2 := by
  have passes : ∀ r : Receiver, During .picture r r.nextRecord.2 := fun r => .passes r.passes_nextRecord
  induction r using nextPicture.induct with
  | case2 r size r' found ih =>
    rw [nextPicture_eq, found]
    exact .absorbed found ih
  | case1 r _ _ found | case3 r _ _ found | case4 r _ found =>
    rw [nextPicture_eq, found]
    simpa only [found] using passes r

/-- However the end is told, an iterator reads as a call for a record does. -/
lemma next?_receiver (r : Receiver) : r.next?.2 = r.nextRecord.2 := by
  rw [next?]
  split
  case h_1 call =>
    rw [call]
    split <;> rfl
  case h_2 call => rw [call]

/-- The receiver that any call leaves comes up in it. -/
lemma during_ask (r : Receiver) (request : Request) : During request r (r.ask request).2 := by
  cases request with
  | record => exact .passes r.passes_nextRecord
  | picture => exact r.during_nextPicture
  | next =>
    rw [ask, next?_receiver]
    exact .passes r.passes_nextRecord

/-- After any number of calls a receiver is within the bound. -/
lemma Within.trace (within : r.Within limit) {requests : List Request}
    {answer : Option Reception × Receiver} (mem : answer ∈ r.trace requests) :
    answer.2.Within limit := by
  induction requests generalizing r with
  | nil => cases mem
  | cons request requests ih =>
    have next := within.during (r.during_ask request)
    cases mem with
    | head => exact next
    | tail _ mem => exact ih next mem

/-- Whatever a source sends and in whatever order a receiver is asked, also after errors and after the end:
at every point of every call it holds at most the start of a record and the bytes of one read call. Its next
step is defined. It leaves the source alone, or it is one read call, made where at most the start of a record
is held. Decoding makes no room for more than the longest record. -/
theorem backlog_bounded (source : Source) (limit : Nat) (small : limit + stampLength ≤ Bytes.maxWord)
    (requests : List Request) :
    (∀ r ∈ start source limit :: ((start source limit).trace requests).map Prod.snd,
      ∀ request s, During request r s →
        s.backlog.count ≤ max 11 (7 + limit) + 65536 ∧
        (∀ s', s.advance ≠ .done .unaddressable s') ∧
        (s.advance.receiver.source = s.source ∨
          s.advance.receiver.source.reads = s.source.reads + 1 ∧ s.backlog.count ≤ max 11 (7 + limit))) ∧
    ∀ bytes current room, decode bytes current limit = .more room → room ≤ 8 + limit := by
  refine ⟨fun r mem request s during => ?_, fun bytes current room more => (of_decode_more more).2⟩
  have begins : r.Within limit := by
    rcases List.mem_cons.1 mem with rfl | mem
    · exact .start source limit
    · obtain ⟨answer, made, rfl⟩ := List.mem_map.1 mem
      exact (Within.start source limit).trace made
  have within := begins.during during
  refine ⟨within.held, fun s' undefined => ?_, ?_⟩
  · cases (advance_done undefined).1 with
    | unaddressable source beyond =>
      exact absurd beyond (decode_ne_unaddressable (by rwa [within.same]))
    | waits waits => cases waits
  · rcases s.advance_receiver with ⟨asks, reads⟩ | ⟨-, alone, -⟩
    · obtain ⟨-, counted, -⟩ := s.readMore_receiver
      rw [reads]
      exact .inr ⟨counted, within.asks asks⟩
    · exact .inl alone

/-- A stream that announces the largest size, and goes on as if a picture of it came. -/
theorem backlog_bounded_huge :
    standardLimit + stampLength ≤ Bytes.maxWord ∧
      ∀ r ∈ ((start
        { deliveries :=
            [.bytes (encodeSize ⟨0xFFFFFFFF, 0xFFFFFFFF⟩), .failure (.bare .interrupted),
              .bytes [0, 0, 0, 0, 0, 0, 0, 0, 0], .nothing, .bytes [1, 2, 3]] }
        standardLimit).trace [.next, .picture, .record, .next]).map Prod.snd,
        r.backlog.count ≤ 67174407 := by
  refine ⟨by decide, fun r mem => ?_⟩
  exact ((backlog_bounded _ _ (by decide) _).1 r (List.mem_cons_of_mem _ mem) .record r (.passes .start)).1

end Receiver

end PlanarPipe
