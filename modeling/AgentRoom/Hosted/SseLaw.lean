import AgentRoom.Hosted.SseLines

/-!
# A stream in chunks

What a parser holds between two reads is determined by the bytes that it has read: its decoder, the
text that is left after the last frame, and the events that it has yielded. So the cut of a stream
into chunks shows only where a stream fails, in how far it came before.
-/

namespace AgentRoom.Hosted

open Utf8 (feed reading)

/-- The text of a stream, without a mark in front. -/
def unmarked (text : List Char) : List Char := dropMark false text

/-- The text of some bytes, as far as they can be decoded. -/
def textRead (bytes : List UInt8) : List Char := unmarked (reading none bytes).1

theorem unmarked_append (text more : List Char) :
    unmarked (text ++ more) = unmarked text ++ dropMark (!text.isEmpty) more := by
  cases text with
  | nil => rfl
  | cons c text =>
    unfold unmarked dropMark
    simp only [List.cons_append, List.head?_cons, List.isEmpty_cons, Bool.not_false, true_and,
      Bool.true_eq_false, false_and, if_false, List.drop_one, List.tail_cons]
    split <;> rfl

/-- **What a parser holds** that has read some bytes and yielded some events. -/
structure Reached (limits : SseLimits) (bytes : List UInt8) (s : SseParser)
    (events : List HostedServerSentEvent) : Prop where
  total : s.totalBytes = bytes.length
  bounded : bytes.length ≤ limits.maxStreamBytes
  text : ∃ text, feed none bytes = some (text, s.decoder) ∧ s.started = !text.isEmpty ∧
    s.buffered = (framesOf (unmarked text)).2 ∧ events = eventsIn (unmarked text)
  left : utf8Bytes s.buffered ≤ limits.maxEventBytes

theorem reached_start (limits : SseLimits) : Reached limits [] startParser [] where
  total := rfl
  bounded := Nat.zero_le _
  text := ⟨[], rfl, rfl, by rw [framesOf_none (by rfl)]; rfl, by
    rw [eventsIn, framesOf_none (by rfl)]; rfl⟩
  left := Nat.zero_le _

/-- **The limits of a stream**: its bytes, and what is pending at any point of its text. -/
structure WithinLimits (limits : SseLimits) (bytes : List UInt8) : Prop where
  total : bytes.length ≤ limits.maxStreamBytes
  pending : ∀ text, text <+: textRead bytes → utf8Bytes (framesOf text).2 ≤ limits.maxEventBytes

variable {limits : SseLimits} {bytes chunk : List UInt8} {s s' : SseParser}
  {events es : List HostedServerSentEvent} {d : Option Utf8.Partial}

theorem textRead_extends {text : List Char} (h : feed none bytes = some (text, d))
    (more : List UInt8) :
    unmarked text <+: textRead (bytes ++ more) := by
  rw [textRead, Utf8.reading_append_of_feed h, unmarked_append]
  exact List.prefix_append _ _

theorem textRead_of_feed {text : List Char} (h : feed none bytes = some (text, d)) :
    textRead bytes = unmarked text := by
  rw [textRead, Utf8.reading_of_feed h]

/-- The loop over the frames, and the bound on what is left. -/
theorem takeFrames_cases (limits : SseLimits) (s : SseParser) :
    (takeFrames limits s).1 <+: eventsIn s.buffered ∧
      ((takeFrames limits s).2 = .error .eventTooLarge ∨
        takeFrames limits s =
            (eventsIn s.buffered, .ok { s with buffered := (framesOf s.buffered).2 }) ∧
          utf8Bytes (framesOf s.buffered).2 ≤ limits.maxEventBytes) := by
  obtain ⟨hread, herror | ⟨hleft, hevents, -⟩⟩ :=
    drain_cases limits.maxEventBytes s.buffered
  · have hstop : takeFrames limits s =
        ((drain limits.maxEventBytes s.buffered).1, .error .eventTooLarge) := by
      unfold takeFrames
      rw [← Prod.eta (drain _ _), herror]
      rfl
    rw [hstop]
    exact ⟨hread, .inl rfl⟩
  · have hgo : takeFrames limits s = (eventsIn s.buffered ++ (
        if limits.maxEventBytes < utf8Bytes (framesOf s.buffered).2
          then ([], .error .eventTooLarge)
          else ([], .ok { s with buffered := (framesOf s.buffered).2 }) : Yielded SseParser).1, (
        if limits.maxEventBytes < utf8Bytes (framesOf s.buffered).2
          then ([], .error .eventTooLarge)
          else ([], .ok { s with buffered := (framesOf s.buffered).2 }) :
        Yielded SseParser).2) := by
      unfold takeFrames
      rw [← Prod.eta (drain _ _), hleft, hevents]
      rfl
    rw [hgo]
    split
    · exact ⟨by rw [List.append_nil], .inl rfl⟩
    · next hsmall =>
        rw [List.append_nil]
        exact ⟨List.prefix_refl _, .inr ⟨rfl, by omega⟩⟩

theorem takeFrames_of_short
    (hframes : ∀ frame ∈ (framesOf s.buffered).1, utf8Bytes frame ≤ limits.maxEventBytes)
    (hleft : utf8Bytes (framesOf s.buffered).2 ≤ limits.maxEventBytes) :
    takeFrames limits s =
      (eventsIn s.buffered, .ok { s with buffered := (framesOf s.buffered).2 }) := by
  unfold takeFrames
  rw [drain_of_short hframes]
  simp only [Yielded.andThen]
  rw [if_neg (by omega), List.append_nil]

/-- The parser after a chunk that is decoded, before frames are taken. -/
def fedBy (s : SseParser) (chunk : List UInt8) (text : List Char) (d : Option Utf8.Partial) :
    SseParser :=
  { decoder := d
    started := s.started || !text.isEmpty
    buffered := s.buffered ++ dropMark s.started text
    totalBytes := s.totalBytes + chunk.length }

/-- **What a parser holds after a chunk that is decoded**: the frames taken, it is reached. -/
theorem reached_fed {new : List Char} (h : Reached limits bytes s events)
    (htotal : bytes.length + chunk.length ≤ limits.maxStreamBytes)
    (hfeed : feed s.decoder chunk = some (new, d))
    (hleft : utf8Bytes (framesOf (fedBy s chunk new d).buffered).2 ≤ limits.maxEventBytes) :
    Reached limits (bytes ++ chunk)
      { fedBy s chunk new d with buffered := (framesOf (fedBy s chunk new d).buffered).2 }
      (events ++ eventsIn (fedBy s chunk new d).buffered) := by
  obtain ⟨text, hfed, hstarted, hbuffered, rfl⟩ := h.text
  have hmore : unmarked (text ++ new) = unmarked text ++ dropMark s.started new := by
    rw [unmarked_append, hstarted]
  have hall : feed none (bytes ++ chunk) = some (text ++ new, d) := Utf8.feed_append_some hfed hfeed
  refine ⟨?_, ?_, ⟨text ++ new, hall, ?_, ?_, ?_⟩, hleft⟩
  · rw [List.length_append, ← h.total]
    rfl
  · rw [List.length_append]
    exact htotal
  · change (s.started || !new.isEmpty) = _
    rw [hstarted]
    cases text <;> rfl
  · change (framesOf (s.buffered ++ dropMark s.started new)).2 = _
    rw [hbuffered, hmore]
    exact (framesOf_left_append _ _).symm
  · change eventsIn (unmarked text) ++ eventsIn (s.buffered ++ dropMark s.started new) = _
    rw [hbuffered, hmore]
    exact (eventsIn_append _ _).symm

theorem events_fed {new : List Char} (h : Reached limits bytes s events)
    (hfeed : feed s.decoder chunk = some (new, d))
    (hes : es <+: eventsIn (fedBy s chunk new d).buffered) (more : List UInt8) :
    events ++ es <+: eventsIn (textRead (bytes ++ chunk ++ more)) := by
  obtain ⟨text, hfed, hstarted, hbuffered, rfl⟩ := h.text
  have hall : feed none (bytes ++ chunk) = some (text ++ new, d) := Utf8.feed_append_some hfed hfeed
  refine List.IsPrefix.trans ?_ (eventsIn_mono (textRead_extends hall more))
  rw [unmarked_append, ← hstarted, eventsIn_append, ← hbuffered]
  exact (List.prefix_append_right_inj _).mpr hes

/-- **A chunk is read to its end, or the stream stops**: with events of the text before. -/
theorem readChunk_cases (h : Reached limits bytes s events) (chunk : List UInt8) :
    (∀ more, events ++ (readChunk limits s chunk).1 <+:
      eventsIn (textRead (bytes ++ chunk ++ more))) ∧
      ((∃ e, (readChunk limits s chunk).2 = .error e) ∨
        ∃ s' es, readChunk limits s chunk = (es, .ok s') ∧
          Reached limits (bytes ++ chunk) s' (events ++ es)) := by
  have hbefore : ∀ more, events <+: eventsIn (textRead (bytes ++ chunk ++ more)) := by
    intro more
    obtain ⟨text, hfed, -, -, rfl⟩ := h.text
    rw [List.append_assoc]
    exact eventsIn_mono (textRead_extends hfed _)
  unfold readChunk
  split
  · exact ⟨fun more => by rw [List.append_nil]; exact hbefore more, .inl ⟨_, rfl⟩⟩
  · next htotal =>
      rw [h.total] at htotal
      cases hfeed : feed s.decoder chunk with
      | none => exact ⟨fun more => by rw [List.append_nil]; exact hbefore more, .inl ⟨_, rfl⟩⟩
      | some fed =>
        obtain ⟨new, d⟩ := fed
        obtain ⟨hread, hcases⟩ := takeFrames_cases limits (fedBy s chunk new d)
        refine ⟨fun more => events_fed h hfeed hread more, hcases.imp (fun he => ⟨_, he⟩) ?_⟩
        rintro ⟨hgo, hleft⟩
        exact ⟨_, _, hgo, reached_fed h (by omega) hfeed hleft⟩

/-- **Within the limits** a chunk is read to its end, unless a byte of it cannot come next. -/
theorem readChunk_within (h : Reached limits bytes s events) {more : List UInt8}
    (hwithin : WithinLimits limits (bytes ++ chunk ++ more)) :
    feed s.decoder chunk = none ∧ readChunk limits s chunk = ([], .error .invalidUtf8) ∨
      ∃ s' es, readChunk limits s chunk = (es, .ok s') ∧
        Reached limits (bytes ++ chunk) s' (events ++ es) := by
  have htotal := hwithin.total
  rw [List.length_append, List.length_append] at htotal
  unfold readChunk
  rw [if_neg (by rw [h.total]; omega)]
  cases hfeed : feed s.decoder chunk with
  | none => exact .inl ⟨rfl, rfl⟩
  | some fed =>
    obtain ⟨new, d⟩ := fed
    obtain ⟨text, hfed, hstarted, hbuffered, -⟩ := h.text
    have hpending : ∀ a, a <+: unmarked text ++ dropMark s.started new →
        utf8Bytes (framesOf a).2 ≤ limits.maxEventBytes := by
      intro a ha
      rw [hstarted, ← unmarked_append] at ha
      exact hwithin.pending a (ha.trans (textRead_extends (Utf8.feed_append_some hfed hfeed) more))
    have hsplit := framesOf_append (unmarked text) (dropMark s.started new)
    rw [← hbuffered] at hsplit
    have hframes : ∀ frame ∈ (framesOf (fedBy s chunk new d).buffered).1,
        utf8Bytes frame ≤ limits.maxEventBytes := by
      intro frame hframe
      refine frames_short hpending frame ?_
      rw [hsplit]
      exact List.mem_append_right _ hframe
    have hleft : utf8Bytes (framesOf (fedBy s chunk new d).buffered).2 ≤ limits.maxEventBytes := by
      have hall := hpending _ (List.prefix_refl _)
      rwa [hsplit] at hall
    exact .inr ⟨_, _, takeFrames_of_short hframes hleft, reached_fed h (by omega) hfeed hleft⟩

/-! ## The run -/

/-- How a stream ends that stays within its limits. -/
def streamOutcome (bytes : List UInt8) : Except SseError Unit :=
  match (reading none bytes).2 with
  | some none =>
    if (framesOf (textRead bytes)).2.all isTrimmed = false then .error .incompleteEvent else .ok ()
  | _ => .error .invalidUtf8

/-- **What a run over a stream promises**, however the stream is cut. -/
structure Ends (limits : SseLimits) (bytes : List UInt8) (result : Yielded Unit) : Prop where
  /-- What it yields are the first events of the text. -/
  events : result.1 <+: eventsIn (textRead bytes)
  /-- Where it ends normally, it yielded all of them, and read all of the stream. -/
  normal : result.2 = .ok () → bytes.length ≤ limits.maxStreamBytes ∧
    streamOutcome bytes = .ok () ∧ result.1 = eventsIn (textRead bytes)
  /-- Within the limits its end is that of the stream, and it yields all events unless there is a
  byte that cannot come next. -/
  within : WithinLimits limits bytes → result.2 = streamOutcome bytes ∧
    ((reading none bytes).2 ≠ none → result.1 = eventsIn (textRead bytes))

/-- What was yielded before, and after. -/
def yieldedAfter (events : List HostedServerSentEvent) (result : Yielded Unit) : Yielded Unit :=
  (events ++ result.1, result.2)

/-- The end of the stream. -/
theorem readEnd_ends (h : Reached limits bytes s events) :
    Ends limits bytes (yieldedAfter events (readEnd limits s)) := by
  obtain ⟨text, hfed, -, hbuffered, rfl⟩ := h.text
  have hread := textRead_of_feed hfed
  have hstatus : (reading none bytes).2 = some s.decoder := by rw [Utf8.reading_of_feed hfed]
  have hframes : framesOf s.buffered = ([], s.buffered) := by
    rw [hbuffered]
    exact framesOf_left _
  have hnone : eventsIn s.buffered = [] := by
    rw [eventsIn, hframes]
    rfl
  have htake : takeFrames limits s = ([], .ok s) := by
    rw [takeFrames_of_short (by rw [hframes]; exact fun f hf => absurd hf List.not_mem_nil)
      (by rw [hframes]; exact h.left), hframes, hnone]
  have hend : readEnd limits s = ([], streamOutcome bytes) := by
    unfold readEnd streamOutcome
    rw [hstatus, htake, hread, ← hbuffered]
    cases hdecoder : s.decoder with
    | some p => rfl
    | none =>
      simp only [Yielded.andThen, ne_eq, not_true_eq_false, if_false]
      split <;> rfl
  rw [yieldedAfter, hend, List.append_nil]
  refine ⟨?_, fun hok => ⟨h.bounded, hok, ?_⟩, fun _ => ⟨rfl, fun _ => ?_⟩⟩
  · rw [hread]
  · rw [hread]
  · rw [hread]

/-- **The end of every run.** -/
theorem readStream_ends (chunks : List (List UInt8)) (h : Reached limits bytes s events) :
    Ends limits (bytes ++ chunks.flatten) (yieldedAfter events (readStream limits s chunks)) := by
  induction chunks generalizing bytes s events with
  | nil =>
    rw [List.flatten_nil, List.append_nil]
    exact readEnd_ends h
  | cons chunk chunks ih =>
    rw [List.flatten_cons, ← List.append_assoc]
    have hgo : ∀ es s', readChunk limits s chunk = (es, .ok s') →
        yieldedAfter events (readStream limits s (chunk :: chunks)) =
          yieldedAfter (events ++ es) (readStream limits s' chunks) := by
      intro es s' hchunk
      rw [readStream, hchunk, yieldedAfter, yieldedAfter, List.append_assoc]
      rfl
    obtain ⟨hread, hcases⟩ := readChunk_cases h chunk
    obtain ⟨e, he⟩ | ⟨s', es, hchunk, hreached⟩ := hcases
    · have hstop : yieldedAfter events (readStream limits s (chunk :: chunks)) =
          (events ++ (readChunk limits s chunk).1, .error e) := by
        rw [readStream, ← Prod.eta (readChunk limits s chunk), he]
        rfl
      rw [hstop]
      refine ⟨hread _, fun hok => (by cases hok), fun hwithin => ?_⟩
      obtain ⟨hfeed, hchunk⟩ | ⟨s', es, hchunk, -⟩ := readChunk_within h hwithin
      · obtain ⟨text, hfed, -⟩ := h.text
        have hbad : (reading none (bytes ++ chunk ++ chunks.flatten)).2 = none := by
          rw [List.append_assoc, Utf8.reading_append_of_feed hfed]
          exact Utf8.reading_append_of_not_feed hfeed _
        rw [hchunk] at he
        obtain rfl := Except.error.inj he
        refine ⟨?_, fun hgood => absurd hbad hgood⟩
        unfold streamOutcome
        rw [hbad]
      · rw [hchunk] at he
        cases he
    · rw [hgo es s' hchunk]
      exact ih hreached

/-! ## The law -/

variable {maxEventBytes maxStreamBytes : Option (Option Rat)} {chunks : List (List UInt8)}

theorem parse_ends (hlimits : sseLimits maxEventBytes maxStreamBytes = some limits)
    (chunks : List (List UInt8)) :
    Ends limits chunks.flatten
      (parseHostedServerSentEvents maxEventBytes maxStreamBytes chunks) := by
  unfold parseHostedServerSentEvents
  rw [hlimits]
  exact readStream_ends chunks (reached_start limits)

/-- **What a stream promises over its cuts.** -/
structure ChunkLaw : Prop where
  /-- Of two runs over one stream, one yields the first events of the other. -/
  comparable : ∀ maxEventBytes maxStreamBytes chunks chunks', chunks.flatten = chunks'.flatten →
    let run := parseHostedServerSentEvents maxEventBytes maxStreamBytes chunks
    let run' := parseHostedServerSentEvents maxEventBytes maxStreamBytes chunks'
    run.1 <+: run'.1 ∨ run'.1 <+: run.1
  /-- Two runs that end normally yield the same events. -/
  normal : ∀ maxEventBytes maxStreamBytes chunks chunks', chunks.flatten = chunks'.flatten →
    let run := parseHostedServerSentEvents maxEventBytes maxStreamBytes chunks
    let run' := parseHostedServerSentEvents maxEventBytes maxStreamBytes chunks'
    run.2 = .ok () → run'.2 = .ok () → run = run'
  /-- Two runs over a stream within its limits end with one outcome, and yield the same events
  unless a byte of the stream cannot come next. -/
  within : ∀ maxEventBytes maxStreamBytes limits chunks chunks',
    sseLimits maxEventBytes maxStreamBytes = some limits → chunks.flatten = chunks'.flatten →
    WithinLimits limits chunks.flatten →
    let run := parseHostedServerSentEvents maxEventBytes maxStreamBytes chunks
    let run' := parseHostedServerSentEvents maxEventBytes maxStreamBytes chunks'
    run.2 = run'.2 ∧ ((reading none chunks.flatten).2 ≠ none → run = run')
  /-- The events are those of the lines of the stream, a mark in front of them aside, for every mix
  of line ends in which every empty line is seen. -/
  frames : ∀ maxEventBytes maxStreamBytes limits chunks text lines tail,
    sseLimits maxEventBytes maxStreamBytes = some limits → WithinLimits limits chunks.flatten →
    chunks.flatten = Utf8.encode text → unmarked text = textOf lines ++ tail →
    (∀ line ∈ lines, OneLine line.1) → OneLine tail → List.IsChain Seen lines →
    (parseHostedServerSentEvents maxEventBytes maxStreamBytes chunks).1 = lineEvents [] lines

theorem chunk_law : ChunkLaw where
  comparable maxEventBytes maxStreamBytes chunks chunks' hsame := by
    dsimp only
    cases hlimits : sseLimits maxEventBytes maxStreamBytes with
    | none =>
      left
      unfold parseHostedServerSentEvents
      rw [hlimits]
    | some limits =>
      have hends := (parse_ends hlimits chunks).events
      have hends' := (parse_ends hlimits chunks').events
      rw [hsame] at hends
      exact List.prefix_or_prefix_of_prefix hends hends'
  normal maxEventBytes maxStreamBytes chunks chunks' hsame := by
    intro run run' hok hok'
    cases hlimits : sseLimits maxEventBytes maxStreamBytes with
    | none =>
      have hbad : run.2 = .error .badLimits := by
        simp only [run, parseHostedServerSentEvents, hlimits]
      rw [hbad] at hok
      cases hok
    | some limits =>
      have hevents := ((parse_ends hlimits chunks).normal hok).2.2
      have hevents' := ((parse_ends hlimits chunks').normal hok').2.2
      rw [hsame] at hevents
      exact Prod.ext (hevents.trans hevents'.symm) (hok.trans hok'.symm)
  within maxEventBytes maxStreamBytes limits chunks chunks' hlimits hsame hwithin := by
    intro run run'
    obtain ⟨hout, hevents⟩ := (parse_ends hlimits chunks).within hwithin
    obtain ⟨hout', hevents'⟩ := (parse_ends hlimits chunks').within (hsame ▸ hwithin)
    rw [← hsame] at hout' hevents'
    have houtcome : run.2 = run'.2 := hout.trans hout'.symm
    exact ⟨houtcome, fun hgood => Prod.ext ((hevents hgood).trans (hevents' hgood).symm) houtcome⟩
  frames maxEventBytes maxStreamBytes limits chunks text lines tail hlimits hwithin hbytes hlined
      hlines htail hseen := by
    -- the bytes decode whole, so the events are those of the text
    have hfeed : feed none chunks.flatten = some (text, none) := by
      rw [hbytes]
      exact Utf8.feed_encode _
    have hgood : (reading none chunks.flatten).2 ≠ none := by
      rw [Utf8.reading_of_feed hfeed]
      exact Option.some_ne_none _
    rw [((parse_ends hlimits chunks).within hwithin).2 hgood, textRead_of_feed hfeed, hlined]
    exact eventsIn_lines lines tail pending_nil hlines htail hseen

/-- **The cut of a stream shows** where a delimiter is cut in two, after a frame as large as the
limit. -/
theorem cut_shows :
    [Utf8.encode "data: a\n\n".toList].flatten =
        [Utf8.encode "data: a\n".toList, Utf8.encode "\n".toList].flatten ∧
      parseHostedServerSentEvents (some (some 7)) none [Utf8.encode "data: a\n\n".toList] =
        ([⟨none, ['a']⟩], .ok ()) ∧
      parseHostedServerSentEvents (some (some 7)) none
          [Utf8.encode "data: a\n".toList, Utf8.encode "\n".toList] =
        ([], .error .eventTooLarge) := by
  decide +kernel

end AgentRoom.Hosted
