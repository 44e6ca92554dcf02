import AgentRoom.Domain.Text
import AgentRoom.Lib.Utf8Stream

/-!
# Server-sent events

`parseHostedServerSentEvents` reads a stream of bytes in chunks: it decodes them, cuts frames off
what it has buffered, yields the event of each, and bounds the stream, every frame and what is left
in the buffer.

The frames of a text, and what is left after the last of them. A delimiter that was found stays
where it is when more text arrives, so the frames of a longer text go on from the frames of a
shorter one, and what is left of it.
-/

namespace AgentRoom.Hosted

inductive SseError where
  | badLimits
  | invalidUtf8
  | eventTooLarge
  | streamTooLarge
  | incompleteEvent
  deriving DecidableEq

structure HostedServerSentEvent where
  event : Option (List Char)
  data : List Char
  deriving DecidableEq

/-! ## Frames -/

/-- What is after `eventDelimiter` at the front of a text. -/
def afterDelimiter : List Char → Option (List Char)
  | '\r' :: '\n' :: '\r' :: '\n' :: rest => some rest
  | '\n' :: '\n' :: rest => some rest
  | '\r' :: '\r' :: rest => some rest
  | _ => none

/-- The first match of `eventDelimiter`: what is before it, and what is after it. -/
def cutFrame : List Char → Option (List Char × List Char)
  | [] => none
  | c :: text =>
    match afterDelimiter (c :: text) with
    | some rest => some ([], rest)
    | none => (cutFrame text).map fun (frame, rest) => (c :: frame, rest)

/-- `frame.split(lineDelimiter)`. -/
def splitLines : List Char → List (List Char)
  | [] => [[]]
  | '\r' :: '\n' :: rest => [] :: splitLines rest
  | '\n' :: rest => [] :: splitLines rest
  | '\r' :: rest => [] :: splitLines rest
  | c :: rest =>
    match splitLines rest with
    | [] => [[c]]
    | line :: lines => (c :: line) :: lines

/-- `line.slice(separator + 1)`, without one space in front. -/
def fieldValue (text : List Char) : List Char :=
  match text with
  | ' ' :: value => value
  | value => value

/-- What a frame says: its last event, and its data. -/
structure FrameFields where
  event : Option (List Char)
  data : List (List Char)

def readLine (fields : FrameFields) (line : List Char) : FrameFields :=
  if line = [] ∨ line.head? = some ':' then fields
  else
    let field := line.takeWhile (· ≠ ':')
    let value := fieldValue ((line.dropWhile (· ≠ ':')).drop 1)
    if field = "event".toList then { fields with event := some value }
    else if field = "data".toList then { fields with data := fields.data ++ [value] }
    else fields

def eventOf (lines : List (List Char)) : Option HostedServerSentEvent :=
  let fields := lines.foldl readLine ⟨none, []⟩
  if fields.data = [] then none
  else some ⟨fields.event.filter (· ≠ []), ['\n'].intercalate fields.data⟩

def parseEventFrame (frame : List Char) : Option HostedServerSentEvent := eventOf (splitLines frame)

def utf8Bytes (text : List Char) : Nat := (Utf8.encode text).length

variable {text rest : List Char}

theorem afterDelimiter_length (h : afterDelimiter text = some rest) :
    rest.length < text.length := by
  unfold afterDelimiter at h
  split at h
  · obtain rfl := Option.some.inj h
    simp only [List.length_cons]
    omega
  · obtain rfl := Option.some.inj h
    simp only [List.length_cons]
    omega
  · obtain rfl := Option.some.inj h
    simp only [List.length_cons]
    omega
  · cases h

variable {frame : List Char}

theorem cutFrame_length (h : cutFrame text = some (frame, rest)) :
    rest.length < text.length := by
  induction text generalizing frame with
  | nil => cases h
  | cons c text ih =>
    rw [cutFrame] at h
    split at h
    · next rest' hafter =>
        obtain ⟨-, rfl⟩ := Prod.mk.inj (Option.some.inj h)
        exact afterDelimiter_length hafter
    · obtain ⟨⟨frame', rest'⟩, hcut, hsame⟩ := Option.map_eq_some_iff.mp h
      obtain ⟨-, rfl⟩ := Prod.mk.inj hsame
      exact Nat.lt_succ_of_lt (ih hcut)

/-! ## The loop -/

/-- What was yielded, and how it went on. -/
abbrev Yielded (α : Type) := List HostedServerSentEvent × Except SseError α

/-- Go on after what was yielded. -/
def Yielded.andThen {α β : Type} (x : Yielded α) (f : α → Yielded β) : Yielded β :=
  match x with
  | (events, .ok a) => (events ++ (f a).1, (f a).2)
  | (events, .error e) => (events, .error e)

/-- The loop that cuts frames off the buffer: what is left of it. -/
def drain (maxEventBytes : Nat) (buffered : List Char) : Yielded (List Char) :=
  match h : cutFrame buffered with
  | none => ([], .ok buffered)
  | some (frame, rest) =>
    if maxEventBytes < utf8Bytes frame then ([], .error .eventTooLarge)
    else
      have : rest.length < buffered.length := cutFrame_length h
      let (events, left) := drain maxEventBytes rest
      ((parseEventFrame frame).toList ++ events, left)
termination_by buffered.length

/-- The decoder and the buffer between two reads. -/
structure SseParser where
  decoder : Option Utf8.Partial
  started : Bool
  buffered : List Char
  totalBytes : Nat

structure SseLimits where
  maxEventBytes : Nat
  maxStreamBytes : Nat

/-- `\uFEFF` is dropped where a stream starts with it. -/
def dropMark (started : Bool) (text : List Char) : List Char :=
  if started = false ∧ text.head? = some '\uFEFF' then text.drop 1 else text

/-- The loop over the frames, and the bound on what is left. -/
def takeFrames (limits : SseLimits) (s : SseParser) : Yielded SseParser :=
  (drain limits.maxEventBytes s.buffered).andThen fun buffered =>
    if limits.maxEventBytes < utf8Bytes buffered then ([], .error .eventTooLarge)
    else ([], .ok { s with buffered })

def readChunk (limits : SseLimits) (s : SseParser) (chunk : List UInt8) : Yielded SseParser :=
  if limits.maxStreamBytes < s.totalBytes + chunk.length then ([], .error .streamTooLarge)
  else match Utf8.feed s.decoder chunk with
    | none => ([], .error .invalidUtf8)
    | some (text, decoder) =>
      takeFrames limits
        { decoder
          started := s.started || !text.isEmpty
          buffered := s.buffered ++ dropMark s.started text
          totalBytes := s.totalBytes + chunk.length }

def readEnd (limits : SseLimits) (s : SseParser) : Yielded Unit :=
  if s.decoder ≠ none then ([], .error .invalidUtf8)
  else (takeFrames limits s).andThen fun s =>
    if s.buffered.all isTrimmed = false then ([], .error .incompleteEvent) else ([], .ok ())

def readStream (limits : SseLimits) (s : SseParser) : List (List UInt8) → Yielded Unit
  | [] => readEnd limits s
  | chunk :: chunks => (readChunk limits s chunk).andThen fun s => readStream limits s chunks

/-- `positiveLimit`, of a number that is perhaps not given, and perhaps not finite. -/
def positiveLimit (value : Option (Option Rat)) (fallback : Nat) : Option Nat :=
  match value with
  | none => some fallback
  | some none => none
  | some (some q) =>
    if q.isInt = true ∧ 0 < q ∧ isSafeInteger q.num.toNat = true then some q.num.toNat else none

def sseLimits (maxEventBytes maxStreamBytes : Option (Option Rat)) : Option SseLimits := do
  let maxEventBytes ← positiveLimit maxEventBytes (256 * 1024)
  let maxStreamBytes ← positiveLimit maxStreamBytes (2 * 1024 * 1024)
  if maxStreamBytes < maxEventBytes then none else some { maxEventBytes, maxStreamBytes }

/-- Nothing is read yet. -/
def startParser : SseParser :=
  { decoder := none, started := false, buffered := [], totalBytes := 0 }

/-- **`parseHostedServerSentEvents`.** -/
def parseHostedServerSentEvents (maxEventBytes maxStreamBytes : Option (Option Rat))
    (chunks : List (List UInt8)) : Yielded Unit :=
  match sseLimits maxEventBytes maxStreamBytes with
  | none => ([], .error .badLimits)
  | some limits => readStream limits startParser chunks

/-! ## Frames -/

/-- **The frames of a text**, and what is left. -/
def framesOf (text : List Char) : List (List Char) × List Char :=
  match h : cutFrame text with
  | none => ([], text)
  | some (frame, rest) =>
    have : rest.length < text.length := cutFrame_length h
    (frame :: (framesOf rest).1, (framesOf rest).2)
termination_by text.length

def eventsIn (text : List Char) : List HostedServerSentEvent :=
  (framesOf text).1.filterMap parseEventFrame

theorem framesOf_none (h : cutFrame text = none) : framesOf text = ([], text) := by
  rw [framesOf]
  split
  · rfl
  · next hcut => rw [h] at hcut; cases hcut

theorem framesOf_some (h : cutFrame text = some (frame, rest)) :
    framesOf text = (frame :: (framesOf rest).1, (framesOf rest).2) := by
  rw [framesOf]
  split
  · next hcut => rw [h] at hcut; cases hcut
  · next hcut =>
      rw [h] at hcut
      obtain ⟨rfl, rfl⟩ := Prod.mk.inj (Option.some.inj hcut)
      rfl

theorem eventsIn_some (h : cutFrame text = some (frame, rest)) :
    eventsIn text = (parseEventFrame frame).toList ++ eventsIn rest := by
  rw [eventsIn, framesOf_some h, List.filterMap_cons]
  cases parseEventFrame frame <;> rfl

/-! ## More text -/

/-- The alternatives of `eventDelimiter`. -/
def delimiters : List (List Char) := [['\r', '\n', '\r', '\n'], ['\n', '\n'], ['\r', '\r']]

theorem afterDelimiter_iff :
    afterDelimiter text = some rest ↔ ∃ d ∈ delimiters, text = d ++ rest := by
  constructor
  · intro h
    unfold afterDelimiter at h
    split at h
    · obtain rfl := Option.some.inj h
      exact ⟨['\r', '\n', '\r', '\n'], by simp [delimiters], rfl⟩
    · obtain rfl := Option.some.inj h
      exact ⟨['\n', '\n'], by simp [delimiters], rfl⟩
    · obtain rfl := Option.some.inj h
      exact ⟨['\r', '\r'], by simp [delimiters], rfl⟩
    · cases h
  · rintro ⟨d, hd, rfl⟩
    simp only [delimiters, List.mem_cons, List.not_mem_nil, or_false] at hd
    obtain rfl | rfl | rfl := hd
    · rfl
    · rfl
    · rfl

theorem cutFrame_eq (h : cutFrame text = some (frame, rest)) :
    ∃ d ∈ delimiters, text = frame ++ d ++ rest := by
  induction text generalizing frame with
  | nil => cases h
  | cons c text ih =>
    rw [cutFrame] at h
    split at h
    · next rest' hafter =>
        obtain ⟨rfl, rfl⟩ := Prod.mk.inj (Option.some.inj h)
        exact afterDelimiter_iff.mp hafter
    · obtain ⟨⟨frame', rest'⟩, hcut, hsame⟩ := Option.map_eq_some_iff.mp h
      obtain ⟨rfl, rfl⟩ := Prod.mk.inj hsame
      obtain ⟨d, hd, rfl⟩ := ih hcut
      exact ⟨d, hd, rfl⟩

variable {a : List Char}

theorem afterDelimiter_append (h : afterDelimiter a = some rest) (b : List Char) :
    afterDelimiter (a ++ b) = some (rest ++ b) := by
  obtain ⟨d, hd, rfl⟩ := afterDelimiter_iff.mp h
  exact afterDelimiter_iff.mpr ⟨d, hd, List.append_assoc ..⟩

/-- A text without a delimiter in front, and with one behind, gets none in front. -/
theorem afterDelimiter_append_none {c : Char} {found : List Char × List Char}
    (h : afterDelimiter (c :: a) = none) (hbehind : cutFrame a = some found) (b : List Char) :
    afterDelimiter (c :: a ++ b) = none := by
  refine Option.eq_none_iff_forall_not_mem.mpr fun rest hrest => ?_
  obtain ⟨d, hd, hfront⟩ := afterDelimiter_iff.mp hrest
  have hnot : ∀ d ∈ delimiters, ∀ r, c :: a ≠ d ++ r := by
    intro d hd r hr
    rw [afterDelimiter_iff.mpr ⟨d, hd, hr⟩] at h
    cases h
  obtain ⟨frame, behind⟩ := found
  obtain ⟨e, he, hcut⟩ := cutFrame_eq hbehind
  obtain ⟨k, hd', -⟩ | ⟨k, ha, -⟩ := List.append_eq_append_iff.mp hfront
  · -- the delimiter would begin with all of the text, and the text holds another one
    have htwo : 2 ≤ e.length := by
      simp only [delimiters, List.mem_cons, List.not_mem_nil, or_false] at he
      obtain rfl | rfl | rfl := he <;> decide
    have hsize := congrArg List.length hcut
    simp only [List.length_append] at hsize
    cases a with
    | nil => exact absurd hsize (by simp only [List.length_nil]; omega)
    | cons x a =>
      cases a with
      | nil => exact absurd hsize (by simp only [List.length_singleton]; omega)
      | cons y rest =>
        cases k with
        | nil => exact hnot d hd [] (by simpa using hd'.symm)
        | cons z k =>
          simp only [delimiters, List.mem_cons, List.not_mem_nil, or_false] at hd he
          obtain rfl | rfl | rfl := hd
          · obtain ⟨rfl, rfl, rfl, rfl⟩ : c = '\r' ∧ x = '\n' ∧ y = '\r' ∧ rest = [] := by
              cases rest with
              | nil =>
                obtain ⟨hc, hx, hy, -⟩ : '\r' = c ∧ '\n' = x ∧ '\r' = y ∧ _ := by simpa using hd'
                exact ⟨hc.symm, hx.symm, hy.symm, rfl⟩
              | cons w rest => simp at hd'
            have hframe : frame = [] ∧ behind = [] := by
              simp only [List.length_cons, List.length_nil] at hsize
              exact ⟨List.eq_nil_of_length_eq_zero (by omega),
                List.eq_nil_of_length_eq_zero (by omega)⟩
            obtain ⟨rfl, rfl⟩ := hframe
            obtain rfl | rfl | rfl := he <;> simp at hcut
          · simp at hd'
          · simp at hd'
  · exact hnot d hd k ha

/-- **A frame that was found stays.** -/
theorem cutFrame_append (h : cutFrame a = some (frame, rest)) (b : List Char) :
    cutFrame (a ++ b) = some (frame, rest ++ b) := by
  induction a generalizing frame with
  | nil => cases h
  | cons c a ih =>
    rw [cutFrame] at h
    split at h
    · next rest' hafter =>
        obtain ⟨rfl, rfl⟩ := Prod.mk.inj (Option.some.inj h)
        rw [List.cons_append, cutFrame, ← List.cons_append, afterDelimiter_append hafter]
    · next hnone =>
        obtain ⟨⟨frame', rest'⟩, hcut, hsame⟩ := Option.map_eq_some_iff.mp h
        obtain ⟨rfl, rfl⟩ := Prod.mk.inj hsame
        have hnext := afterDelimiter_append_none hnone hcut b
        rw [List.cons_append] at hnext
        rw [List.cons_append, cutFrame, hnext]
        dsimp only
        rw [ih hcut]
        rfl

/-- **A frame and its delimiter are found**, whatever follows them. -/
theorem cutFrame_local (h : cutFrame text = some (frame, rest)) :
    ∃ d ∈ delimiters, text = frame ++ d ++ rest ∧
      ∀ b, cutFrame (frame ++ d ++ b) = some (frame, b) := by
  induction text generalizing frame with
  | nil => cases h
  | cons c text ih =>
    rw [cutFrame] at h
    split at h
    · next rest' hafter =>
        obtain ⟨rfl, rfl⟩ := Prod.mk.inj (Option.some.inj h)
        obtain ⟨d, hd, htext⟩ := afterDelimiter_iff.mp hafter
        refine ⟨d, hd, htext, fun b => ?_⟩
        have hfront := afterDelimiter_iff.mpr ⟨d, hd, rfl (a := d ++ b)⟩
        cases hd' : d ++ b with
        | nil =>
          rw [hd'] at hfront
          cases hfront
        | cons x more =>
          rw [hd'] at hfront
          rw [List.nil_append, hd', cutFrame, hfront]
    · next hnone =>
        obtain ⟨⟨frame', rest'⟩, hcut, hsame⟩ := Option.map_eq_some_iff.mp h
        obtain ⟨rfl, rfl⟩ := Prod.mk.inj hsame
        obtain ⟨d, hd, rfl, hlocal⟩ := ih hcut
        refine ⟨d, hd, rfl, fun b => ?_⟩
        have hcut' := hlocal []
        rw [List.append_nil] at hcut'
        have hnone' : afterDelimiter (c :: (frame' ++ d)) = none := by
          refine Option.eq_none_iff_forall_not_mem.mpr fun r hr => ?_
          have hmore := afterDelimiter_append hr rest'
          rw [List.cons_append, hnone] at hmore
          cases hmore
        have hnext := afterDelimiter_append_none hnone' hcut' b
        rw [List.cons_append] at hnext
        rw [List.cons_append, List.cons_append, cutFrame, hnext]
        dsimp only
        rw [hlocal b]
        rfl

/-- There is no delimiter in a frame. -/
theorem cutFrame_frame (h : cutFrame text = some (frame, rest)) :
    cutFrame frame = none := by
  cases hframe : cutFrame frame with
  | none => rfl
  | some found =>
    obtain ⟨inner, behind⟩ := found
    obtain ⟨d, hd, htext⟩ := cutFrame_eq h
    have happend := cutFrame_append hframe (d ++ rest)
    rw [← List.append_assoc, ← htext, h] at happend
    obtain ⟨rfl, -⟩ := Prod.mk.inj (Option.some.inj happend)
    obtain ⟨e, he, hlong⟩ := cutFrame_eq hframe
    have hsize := congrArg List.length hlong
    have htwo : 2 ≤ e.length := by
      simp only [delimiters, List.mem_cons, List.not_mem_nil, or_false] at he
      obtain rfl | rfl | rfl := he <;> decide
    simp only [List.length_append] at hsize
    omega

/-- **The frames of a longer text.** -/
theorem framesOf_append (a b : List Char) :
    framesOf (a ++ b) = ((framesOf a).1 ++ (framesOf ((framesOf a).2 ++ b)).1,
      (framesOf ((framesOf a).2 ++ b)).2) := by
  fun_induction framesOf a with
  | case1 a h => rfl
  | case2 a frame rest h _ ih =>
    rw [framesOf_some (cutFrame_append h b), ih]
    rfl

theorem eventsIn_append (a b : List Char) :
    eventsIn (a ++ b) = eventsIn a ++ eventsIn ((framesOf a).2 ++ b) := by
  rw [eventsIn, framesOf_append, List.filterMap_append]
  rfl

/-- **The events of a longer text go on** from those of a shorter one. -/
theorem eventsIn_mono {b : List Char} (h : a <+: b) : eventsIn a <+: eventsIn b := by
  obtain ⟨rest, rfl⟩ := h
  rw [eventsIn_append]
  exact List.prefix_append _ _

theorem framesOf_left (text : List Char) :
    framesOf (framesOf text).2 = ([], (framesOf text).2) := by
  fun_induction framesOf text with
  | case1 text h => exact framesOf_none h
  | case2 text frame rest h _ ih => exact ih

theorem framesOf_left_append (a b : List Char) :
    (framesOf (a ++ b)).2 = (framesOf ((framesOf a).2 ++ b)).2 := by
  rw [framesOf_append]

/-! ## The loop over the buffer -/

variable {maxEventBytes : Nat}

theorem drain_of_short {buffered : List Char}
    (h : ∀ frame ∈ (framesOf buffered).1, utf8Bytes frame ≤ maxEventBytes) :
    drain maxEventBytes buffered = (eventsIn buffered, .ok (framesOf buffered).2) := by
  fun_induction drain maxEventBytes buffered with
  | case1 text hcut => rw [eventsIn, framesOf_none hcut]; rfl
  | case2 text frame rest hcut hlarge =>
    rw [framesOf_some hcut] at h
    exact absurd (h frame List.mem_cons_self) (by omega)
  | case3 text frame rest hcut hshort hless events left hdrain ih =>
    rw [framesOf_some hcut] at h
    have hrest := ih fun f hf => h f (List.mem_cons_of_mem _ hf)
    rw [hdrain] at hrest
    obtain ⟨rfl, rfl⟩ := Prod.mk.inj hrest
    rw [eventsIn_some hcut, framesOf_some hcut]

/-- What the loop yields are the first events of the text; it fails at a frame that is too large. -/
theorem drain_cases (maxEventBytes : Nat) (buffered : List Char) :
    (drain maxEventBytes buffered).1 <+: eventsIn buffered ∧
      ((drain maxEventBytes buffered).2 = .error .eventTooLarge ∨
        (drain maxEventBytes buffered).2 = .ok (framesOf buffered).2 ∧
          (drain maxEventBytes buffered).1 = eventsIn buffered ∧
          ∀ frame ∈ (framesOf buffered).1, utf8Bytes frame ≤ maxEventBytes) := by
  fun_induction drain maxEventBytes buffered with
  | case1 text hcut =>
    rw [eventsIn, framesOf_none hcut]
    exact ⟨List.nil_prefix, .inr ⟨rfl, rfl, fun f hf => absurd hf List.not_mem_nil⟩⟩
  | case2 text frame rest hcut hlarge => exact ⟨List.nil_prefix, .inl rfl⟩
  | case3 text frame rest hcut hshort hless events left hdrain ih =>
    rw [hdrain] at ih
    obtain ⟨hread, hcases⟩ := ih
    rw [eventsIn_some hcut]
    refine ⟨(List.prefix_append_right_inj _).mpr hread, hcases.imp id ?_⟩
    rintro ⟨hleft, hall, hsizes⟩
    rw [framesOf_some hcut]
    refine ⟨hleft, congrArg _ hall, fun f hf => ?_⟩
    obtain rfl | hf := List.mem_cons.mp hf
    · omega
    · exact hsizes f hf

/-- **Where nothing that is pending is too large**, no frame is. -/
theorem frames_short (h : ∀ a, a <+: text → utf8Bytes (framesOf a).2 ≤ maxEventBytes) :
    ∀ frame ∈ (framesOf text).1, utf8Bytes frame ≤ maxEventBytes := by
  fun_induction framesOf text with
  | case1 text hcut => exact fun f hf => absurd hf List.not_mem_nil
  | case2 text frame rest hcut _ ih =>
    obtain ⟨d, -, htext, hlocal⟩ := cutFrame_local hcut
    intro f hf
    obtain rfl | hf := List.mem_cons.mp hf
    · have hpending := h f ⟨d ++ rest, by rw [htext, List.append_assoc]⟩
      rwa [framesOf_none (cutFrame_frame hcut)] at hpending
    · refine ih (fun a ha => ?_) f hf
      obtain ⟨more, rfl⟩ := ha
      have hpending := h (frame ++ d ++ a) ⟨more, by rw [htext, List.append_assoc _ a]⟩
      rwa [framesOf_some (hlocal a)] at hpending

end AgentRoom.Hosted
