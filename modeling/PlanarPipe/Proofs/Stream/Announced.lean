import PlanarPipe.Proofs.Stream.Persistence

/-!
# Pictures are as they were announced

The size of a picture is not sent with it. A receiver sizes it by the announcement that it decoded last, and
whoever cuts the planes out of the payload sizes them again. Both agree whatever the source does: a picture
that is handed out has the size announced last (`Wire.Finds.picture`), and its planes are the whole of its
payload, one after the other (`Picture.planes_eq`). Main statement: `Receiver.pictures_as_announced`.
-/

namespace PlanarPipe

namespace Picture

/-- The part of the payload that a plane is cut out of: where it starts and where it ends. -/
def span (p : Picture) : Channel → Nat × Nat
  | .luma => (0, p.size.planeBytes .luma)
  | .blue => (p.size.planeBytes .luma, p.size.planeBytes .luma + p.size.planeBytes .blue)
  | .red => (p.size.planeBytes .luma + p.size.planeBytes .blue,
      p.size.planeBytes .luma + 2 * p.size.planeBytes .blue)

variable {p : Picture}

/-- A plane of a picture ends where it starts, or later. -/
lemma span_le (p : Picture) (c : Channel) : (p.span c).1 ≤ (p.span c).2 := by
  cases c <;> simp only [span] <;> omega

/-- No plane reaches beyond a frame of the size. -/
lemma span_le_exactBytes (p : Picture) (c : Channel) : (p.span c).2 ≤ p.size.exactBytes := by
  rw [Size.exactBytes_eq_planeBytes]
  cases c <;> simp only [span] <;> omega

/-- A plane of a picture is what its payload holds between the bounds of the plane. -/
lemma plane_eq_span (p : Picture) (c : Channel) :
    p.plane c = (p.payload.drop (p.span c).1).take ((p.span c).2 - (p.span c).1) := by
  cases c with
  | luma => rfl
  | blue =>
    simp only [plane, span]
    rw [Nat.add_sub_cancel_left]
  | red =>
    have width : p.size.planeBytes .luma + 2 * p.size.planeBytes .blue -
        (p.size.planeBytes .luma + p.size.planeBytes .blue) = p.size.planeBytes .blue := by omega
    simp only [plane, span]
    rw [width]

/-- The planes of a payload of the right length, one after the other, are all of it. -/
lemma planes_eq (long : p.payload.length = p.size.exactBytes) : Channel.all.flatMap p.plane = p.payload := by
  rw [Size.exactBytes_eq_planeBytes] at long
  simp only [Channel.all, List.flatMap_cons, List.flatMap_nil, List.append_nil, plane]
  have rest : (p.payload.drop (p.size.planeBytes .luma + p.size.planeBytes .blue)).length ≤
      p.size.planeBytes .blue := by
    rw [List.length_drop]
    omega
  rw [List.take_of_length_le rest, ← List.drop_drop, List.take_append_drop, List.take_append_drop]

end Picture

namespace Wire

/-- The last announcement among some findings is of this size. -/
def AnnouncedLast (size : Size) (found : List Reception) : Prop :=
  ∃ before after, found = before ++ .record (.announcement size) :: after ∧
    ∀ other, .record (.announcement other) ∉ after

variable {limit : Nat} {bytes rest next : Bytes} {current latest : Option Size} {what : Reception}
  {found : List Reception}

/-- A finding is an announcement of a size with pixels, or the size stays. -/
lemma of_finding (finding : (decode bytes current limit).finding current = some (what, next, latest)) :
    (∃ size, what = .record (.announcement size) ∧ latest = some size ∧ size.isEmpty = false) ∨
      (∀ size, what ≠ .record (.announcement size)) ∧ latest = current := by
  cases d : decode bytes current limit with
  | more | unaddressable =>
    rw [d] at finding
    cases finding
  | malformed cause left =>
    rw [d] at finding
    cases finding
    exact .inr ⟨nofun, rfl⟩
  | record r left =>
    obtain ⟨-, fits, -⟩ := of_decode_record d
    rw [d] at finding
    cases finding
    cases fits with
    | announcement pixels => exact .inl ⟨_, rfl, rfl, pixels⟩
    | picture => exact .inr ⟨nofun, rfl⟩

/-- The size that holds after some findings is that of the last announcement among them, if there is one. -/
lemma Finds.announced (finds : Finds limit bytes current found rest latest) :
    (∃ size, latest = some size ∧ AnnouncedLast size found ∧ size.isEmpty = false) ∨
      (∀ size, .record (.announcement size) ∉ found) ∧ latest = current := by
  -- an announcement among the later findings is the last one, whatever was found first
  induction finds with
  | nil => exact .inr ⟨fun _ => List.not_mem_nil, rfl⟩
  | @cons bytes current what next size found rest latest finding _ ih =>
    rcases ih with ⟨size, rfl, ⟨before, after, rfl, none⟩, pixels⟩ | ⟨none, rfl⟩
    · exact .inl ⟨size, rfl, ⟨what :: before, after, rfl, none⟩, pixels⟩
    · rcases of_finding finding with ⟨size, rfl, rfl, pixels⟩ | ⟨other, rfl⟩
      · exact .inl ⟨size, rfl, ⟨[], found, rfl, none⟩, pixels⟩
      · refine .inr ⟨fun size mem => ?_, rfl⟩
        cases mem with
        | head => exact other size rfl
        | tail _ mem => exact none size mem

/-- What is found last is found in what the findings before it left over. -/
lemma Finds.last (finds : Finds limit bytes current (found ++ [what]) rest latest) :
    ∃ left size, Finds limit bytes current found left size ∧
      (decode left size limit).finding size = some (what, rest, latest) := by
  induction found generalizing bytes current with
  | nil =>
    cases finds with
    | cons finding later =>
      cases later
      exact ⟨bytes, current, .nil, finding⟩
  | cons first found ih =>
    cases finds with
    | cons finding later =>
      obtain ⟨left, size, finds, next⟩ := ih later
      exact ⟨left, size, .cons finding finds, next⟩

/-- A picture that is found from the start of a stream has the size announced last, which holds on. -/
lemma Finds.picture {p : Picture}
    (finds : Finds limit bytes none (found ++ [.record (.picture p)]) rest latest) :
    AnnouncedLast p.size found ∧ latest = some p.size ∧ p.size.isEmpty = false ∧
      p.payload.length = p.size.exactBytes ∧ p.size.exactBytes ≤ limit := by
  obtain ⟨left, size, before, finding⟩ := finds.last
  cases d : decode left size limit with
  | more | unaddressable | malformed =>
    rw [d] at finding
    cases finding
  | record r rest =>
    obtain ⟨-, fits, -⟩ := of_decode_record d
    rw [d] at finding
    cases finding
    cases fits with
    | picture same long within untagged =>
      subst same
      rcases before.announced with ⟨_, ⟨⟩, announced, pixels⟩ | ⟨-, ⟨⟩⟩
      exact ⟨announced, rfl, pixels, long, within⟩

end Wire

/-- A record that answers a call is the last finding that the call uses up. -/
lemma Serves.last {request share r} (serves : Serves request share (some (.record r))) :
    ∃ before, share = before ++ [.record r] := by
  generalize eq : some (Reception.record r) = answer at serves
  induction serves with
  | given =>
    cases eq
    exact ⟨[], rfl⟩
  | waits waits =>
    subst eq
    cases waits with
    | waits waits => cases waits
  | absorbed _ ih =>
    obtain ⟨before, rfl⟩ := ih eq
    exact ⟨_ :: before, rfl⟩

namespace Receiver

open Wire

variable {data : Bytes} {limit : Nat} {used : List Reception} {r : Receiver}

/-- What an account says of one of its calls. -/
lemma Accounts.call {requests shares calls} (accounts : Accounts data limit used requests shares calls)
    {i : Nat} {answer : Option Reception} (call : calls[i]? = some (answer, r)) :
    ∃ request share before, Serves request share answer ∧
      used ++ (shares.take (i + 1)).flatten = before ++ share ∧ Holds data limit (before ++ share) r := by
  induction accounts generalizing i with
  | nil => cases call
  | @cons used request share _ _ _ shares _ serves holds _ _ ih =>
    cases i with
    | zero =>
      cases call
      exact ⟨request, share, used, serves, by simp, holds⟩
    | succ i =>
      obtain ⟨request, share', before, serves, whole, holds⟩ := ih call
      refine ⟨request, share', before, serves, ?_, holds⟩
      rw [List.take_succ_cons, List.flatten_cons, ← List.append_assoc, whole]

/-- Whatever a source does and in whatever order a receiver is asked: a picture that a call answers with has
the size of the last announcement that was found before it, by this call or an earlier one, and the receiver
reports this size. It has pixels, the payload is as long as its exact count and within the limit. Each plane
is cut out within the payload, and together they are all of it. -/
theorem pictures_as_announced (source : Source) (limit : Nat) (small : limit + stampLength ≤ Bytes.maxWord)
    (requests : List Request) :
    ∃ shares, Accounts source.data limit [] requests shares ((start source limit).trace requests) ∧
      ∀ i p r, ((start source limit).trace requests)[i]? = some (some (.record (.picture p)), r) →
        (∃ found, (shares.take (i + 1)).flatten = found ++ [.record (.picture p)] ∧
          AnnouncedLast p.size found) ∧
        r.size = some p.size ∧ p.size.isEmpty = false ∧
        p.payload.length = p.size.exactBytes ∧ p.size.exactBytes ≤ limit ∧
        (∀ c, (p.span c).1 ≤ (p.span c).2 ∧ (p.span c).2 ≤ p.payload.length ∧
          (p.span c).2 ≤ Bytes.maxWord ∧
          p.plane c = (p.payload.drop (p.span c).1).take ((p.span c).2 - (p.span c).1)) ∧
        Channel.all.flatMap p.plane = p.payload := by
  obtain ⟨shares, accounts⟩ := (Holds.start source limit).exists_accounts small requests
  refine ⟨shares, accounts, fun i p r call => ?_⟩
  obtain ⟨request, share, before, serves, whole, -, received, -, finds⟩ := accounts.call call
  obtain ⟨absorbed, rfl⟩ := serves.last
  rw [List.nil_append, ← List.append_assoc] at whole
  rw [← List.append_assoc] at finds
  obtain ⟨announced, same, pixels, long, within⟩ := finds.picture
  refine ⟨⟨_, whole, announced⟩, same, pixels, long, within, fun c => ⟨p.span_le c, ?_, ?_, p.plane_eq_span c⟩,
    Picture.planes_eq long⟩
  · rw [long]
    exact p.span_le_exactBytes c
  · have counted := p.span_le_exactBytes c
    omega

/-- A picture of one pixel and its announcement, as a call for a picture meets them. -/
theorem pictures_as_announced_pixel :
    let source : Source := { deliveries := [.bytes (encodeSize ⟨1, 1⟩ ++ [5, 0, 0, 0, 0, 0, 0, 0, 7])] }
    let p : Picture := ⟨5, ⟨1, 1⟩, [7]⟩
    standardLimit + stampLength ≤ Bytes.maxWord ∧
      ∃ r, (start source standardLimit).trace [.picture] = [(some (.record (.picture p)), r)] ∧
        r.size = some ⟨1, 1⟩ ∧ Channel.all.flatMap p.plane = [7] := by
  intro source p
  let held : Receiver :=
    { source := { deliveries := [], reads := 1 }
      backlog := Backlog.empty.push (encodeSize ⟨1, 1⟩ ++ [5, 0, 0, 0, 0, 0, 0, 0, 7])
      size := none
      limit := standardLimit }
  let announced : Receiver :=
    { held with backlog := .ofList [5, 0, 0, 0, 0, 0, 0, 0, 7], size := some ⟨1, 1⟩ }
  let final : Receiver := { announced with backlog := .ofList [] }
  have first : (start source standardLimit).nextRecord = (.record (.announcement ⟨1, 1⟩), announced) := by
    have again : (start source standardLimit).advance = .again held := rfl
    rw [nextRecord_again again]
    exact nextRecord_done rfl
  have second : announced.nextRecord = (.record (.picture p), final) := nextRecord_done rfl
  have traced : (start source standardLimit).trace [.picture] = [(some (.record (.picture p)), final)] := by
    rw [trace, ask, nextPicture_eq, first]
    simp only
    rw [nextPicture_eq, second]
    rfl
  obtain ⟨shares, -, pictures⟩ := pictures_as_announced source standardLimit (by decide) [.picture]
  rw [traced] at pictures
  obtain ⟨-, size, -, -, -, -, planes⟩ := pictures 0 p final rfl
  exact ⟨by decide, final, traced, size, planes⟩

end Receiver

end PlanarPipe
