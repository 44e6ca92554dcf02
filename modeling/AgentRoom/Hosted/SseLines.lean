import AgentRoom.Hosted.ServerSentEvents
import Mathlib.Data.List.Induction

/-!
# Lines

A text as lines, each with its own line end. An empty line ends a frame, whose event is that of the
lines before it. The frames that the parser cuts off have the same events, for every mix of line
ends but one: an empty line that `CR LF` ends is not seen after a line that a bare `LF` ends.
-/

namespace AgentRoom.Hosted

inductive LineEnd where
  | lf
  | crlf
  deriving DecidableEq

def LineEnd.text : LineEnd → List Char
  | .lf => ['\n']
  | .crlf => ['\r', '\n']

/-- A line and its end. -/
abbrev Line := List Char × LineEnd

/-- The text of some lines. -/
def textOf (lines : List Line) : List Char := lines.flatMap fun line => line.1 ++ line.2.text

/-- **The events of some lines**: an empty line ends the frame of the lines before it. -/
def lineEvents (pending : List (List Char)) : List Line → List HostedServerSentEvent
  | [] => []
  | (line, _) :: lines =>
    if line = [] then (eventOf pending).toList ++ lineEvents [] lines
    else lineEvents (pending ++ [line]) lines

/-- There is no line end in a text. -/
def OneLine (text : List Char) : Prop := '\r' ∉ text ∧ '\n' ∉ text

/-- An empty line that is seen after another one. -/
def Seen (before line : Line) : Prop :=
  ¬(before.1 ≠ [] ∧ before.2 = .lf ∧ line.1 = [] ∧ line.2 = .crlf)

/-! ## The events of a frame -/

theorem readLine_nil (fields : FrameFields) : readLine fields [] = fields := if_pos (.inl rfl)

theorem eventOf_filter (lines : List (List Char)) :
    eventOf (lines.filter (· ≠ [])) = eventOf lines := by
  have hfold : ∀ fields, (lines.filter (· ≠ [])).foldl readLine fields =
      lines.foldl readLine fields := by
    induction lines with
    | nil => exact fun _ => rfl
    | cons line lines ih =>
      intro fields
      by_cases hline : line = []
      · rw [hline, List.filter_cons_of_neg (by simp), List.foldl_cons, readLine_nil, ih]
      · rw [List.filter_cons_of_pos (by simpa using hline), List.foldl_cons, List.foldl_cons, ih]
  rw [eventOf, eventOf, hfold]

theorem splitLines_cons {c : Char} (hcr : c ≠ '\r') (hlf : c ≠ '\n') {rest line : List Char}
    {lines : List (List Char)} (h : splitLines rest = line :: lines) :
    splitLines (c :: rest) = (c :: line) :: lines := by
  rw [splitLines.eq_def]
  split
  · next heq => cases heq
  · next heq => exact absurd (List.cons.inj heq).1 hcr
  · next heq => exact absurd (List.cons.inj heq).1 hlf
  · next heq => exact absurd (List.cons.inj heq).1 hcr
  · next heq =>
      obtain ⟨rfl, rfl⟩ := List.cons.inj heq
      rw [h]

theorem OneLine.tail {c : Char} {line : List Char} (h : OneLine (c :: line)) :
    c ≠ '\r' ∧ c ≠ '\n' ∧ OneLine line :=
  ⟨fun hc => h.1 (hc ▸ List.mem_cons_self), fun hc => h.2 (hc ▸ List.mem_cons_self),
    fun hmem => h.1 (List.mem_cons_of_mem _ hmem), fun hmem => h.2 (List.mem_cons_of_mem _ hmem)⟩

theorem splitLines_line {line : List Char} (h : OneLine line) (lineEnd : LineEnd)
    (rest : List Char) :
    splitLines (line ++ lineEnd.text ++ rest) = line :: splitLines rest := by
  induction line with
  | nil => cases lineEnd <;> rfl
  | cons c line ih =>
    obtain ⟨hcr, hlf, hline⟩ := h.tail
    exact splitLines_cons hcr hlf (ih hline)

theorem splitLines_last {line : List Char} (h : OneLine line) : splitLines line = [line] := by
  induction line with
  | nil => rfl
  | cons c line ih =>
    obtain ⟨hcr, hlf, hline⟩ := h.tail
    exact splitLines_cons hcr hlf (ih hline)

theorem splitLines_cut {line : List Char} (h : OneLine line) :
    splitLines (line ++ ['\r']) = [line, []] := by
  induction line with
  | nil => rfl
  | cons c line ih =>
    obtain ⟨hcr, hlf, hline⟩ := h.tail
    exact splitLines_cons hcr hlf (ih hline)

theorem splitLines_textOf {lines : List Line} (h : ∀ line ∈ lines, OneLine line.1)
    (rest : List Char) :
    splitLines (textOf lines ++ rest) = lines.map Prod.fst ++ splitLines rest := by
  induction lines with
  | nil => rfl
  | cons line lines ih =>
    rw [textOf, List.flatMap_cons, List.append_assoc, splitLines_line (h line List.mem_cons_self),
      ← textOf, ih fun l hl => h l (List.mem_cons_of_mem _ hl)]
    rfl

/-! ## Frames, one character at a time -/

theorem delimiters_suffix : ∀ d ∈ delimiters, ∀ e ∈ delimiters, ∀ f g : List Char,
    f ++ d = g ++ e → d = e := by
  intro d hd e he f g h
  have hback := congrArg List.reverse h
  simp only [delimiters, List.mem_cons, List.not_mem_nil, or_false] at hd he
  obtain rfl | rfl | rfl := hd <;> obtain rfl | rfl | rfl := he <;> first | rfl | simp at hback

/-- One more character completes a frame, or none. -/
theorem cutFrame_concat {text : List Char} (h : cutFrame text = none) (c : Char) :
    cutFrame (text ++ [c]) = none ∨
      ∃ frame, ∃ d ∈ delimiters, text ++ [c] = frame ++ d ∧
        cutFrame (text ++ [c]) = some (frame, []) := by
  cases hcut : cutFrame (text ++ [c]) with
  | none => exact .inl rfl
  | some found =>
    obtain ⟨frame, rest⟩ := found
    obtain ⟨d, hd, htext, hlocal⟩ := cutFrame_local hcut
    cases rest using List.reverseRecOn with
    | nil => exact .inr ⟨frame, d, hd, by rw [htext, List.append_nil], rfl⟩
    | append_singleton rest x =>
      rw [← List.append_assoc] at htext
      obtain ⟨rfl, -⟩ := List.append_inj' htext rfl
      rw [hlocal rest] at h
      cases h

/-- A delimiter is found. -/
theorem cutFrame_ne_none {d : List Char} (hd : d ∈ delimiters) (frame : List Char) :
    cutFrame (frame ++ d) ≠ none := by
  induction frame with
  | nil =>
    have hfront : afterDelimiter d = some [] := afterDelimiter_iff.mpr ⟨d, hd, by simp⟩
    cases d with
    | nil => cases hfront
    | cons c d =>
      rw [List.nil_append, cutFrame, hfront]
      exact Option.some_ne_none _
  | cons c frame ih =>
    rw [List.cons_append, cutFrame]
    split
    · exact Option.some_ne_none _
    · exact fun h => ih (Option.map_eq_none_iff.mp h)

theorem cutFrame_complete {text frame d : List Char} {c : Char} (h : cutFrame text = none)
    (hd : d ∈ delimiters) (htext : text ++ [c] = frame ++ d) :
    cutFrame (text ++ [c]) = some (frame, []) := by
  obtain hnone | ⟨frame', d', hd', htext', hcut⟩ := cutFrame_concat h c
  · rw [htext] at hnone
    exact absurd hnone (cutFrame_ne_none hd frame)
  · obtain rfl := delimiters_suffix d hd d' hd' frame frame' (htext.symm.trans htext')
    obtain rfl := List.append_cancel_right (htext.symm.trans htext')
    exact hcut

/-- A character that completes no delimiter completes no frame. -/
theorem cutFrame_incomplete {text : List Char} {c : Char} (h : cutFrame text = none)
    (hcr : c = '\r' → ∀ a, text ≠ a ++ ['\r']) (hlf : c = '\n' → ∀ a, text ≠ a ++ ['\n'])
    (hcrlf : c = '\n' → ∀ a, text ≠ a ++ ['\r', '\n', '\r']) : cutFrame (text ++ [c]) = none := by
  obtain hnone | ⟨frame, d, hd, htext, -⟩ := cutFrame_concat h c
  · exact hnone
  · simp only [delimiters, List.mem_cons, List.not_mem_nil, or_false] at hd
    obtain rfl | rfl | rfl := hd
    · obtain ⟨htext, hc⟩ : text = frame ++ ['\r', '\n', '\r'] ∧ [c] = ['\n'] :=
        List.append_inj' (by simpa using htext) rfl
      exact absurd htext (hcrlf (List.singleton_inj.mp hc) _)
    · obtain ⟨htext, hc⟩ : text = frame ++ ['\n'] ∧ [c] = ['\n'] :=
        List.append_inj' (by simpa using htext) rfl
      exact absurd htext (hlf (List.singleton_inj.mp hc) _)
    · obtain ⟨htext, hc⟩ : text = frame ++ ['\r'] ∧ [c] = ['\r'] :=
        List.append_inj' (by simpa using htext) rfl
      exact absurd htext (hcr (List.singleton_inj.mp hc) _)

theorem cutFrame_line {text line : List Char} (h : cutFrame text = none) (hline : OneLine line) :
    cutFrame (text ++ line) = none := by
  induction line generalizing text with
  | nil => rwa [List.append_nil]
  | cons c line ih =>
    obtain ⟨hcr, hlf, hline⟩ := hline.tail
    rw [← List.singleton_append (l := line), ← List.append_assoc]
    exact ih (cutFrame_incomplete h (fun hc => absurd hc hcr) (fun hc => absurd hc hlf)
      fun hc => absurd hc hlf) hline

/-- A text that no `CR` ends, and no line end before. -/
theorem cutFrame_end {text : List Char} (h : cutFrame text = none) (hcr : ∀ a, text ≠ a ++ ['\r'])
    (lineEnd : LineEnd) (hlf : lineEnd = .lf → ∀ a, text ≠ a ++ ['\n'])
    (hcrlf : lineEnd = .crlf → ∀ a, text ≠ a ++ ['\r', '\n']) :
    cutFrame (text ++ lineEnd.text) = none := by
  cases lineEnd with
  | lf =>
    refine cutFrame_incomplete h (fun hc => absurd hc (by decide)) (fun _ => hlf rfl) ?_
    intro _ a ha
    exact hcr (a ++ ['\r', '\n']) (by simpa using ha)
  | crlf =>
    have hfirst : cutFrame (text ++ ['\r']) = none :=
      cutFrame_incomplete h (fun _ => hcr) (fun hc => absurd hc (by decide))
        fun hc => absurd hc (by decide)
    change cutFrame (text ++ (['\r'] ++ ['\n'])) = none
    rw [← List.append_assoc]
    refine cutFrame_incomplete hfirst (fun hc => absurd hc (by decide)) ?_ ?_
    · intro _ a ha
      exact absurd (List.singleton_inj.mp (List.append_inj' ha rfl).2) (by decide)
    · intro _ a ha
      have hcut : text ++ ['\r'] = (a ++ ['\r', '\n']) ++ ['\r'] := by simpa using ha
      exact hcrlf rfl a (List.append_inj' hcut rfl).1

/-! ## Lines and frames -/

theorem textOf_append (a b : List Line) : textOf (a ++ b) = textOf a ++ textOf b :=
  List.flatMap_append

theorem textOf_concat (lines : List Line) (line : Line) :
    textOf (lines ++ [line]) = textOf lines ++ line.1 ++ line.2.text := by
  rw [textOf_append, List.append_assoc]
  exact congrArg (textOf lines ++ ·) (List.append_nil _)

theorem textOf_end (lines : List Line) : textOf lines = [] ∨ ∃ a, textOf lines = a ++ ['\n'] := by
  induction lines using List.reverseRecOn with
  | nil => exact .inl rfl
  | append_singleton lines line =>
    rw [textOf_concat]
    refine .inr ?_
    cases line.2 with
    | lf => exact ⟨_, rfl⟩
    | crlf => exact ⟨textOf lines ++ line.1 ++ ['\r'], by simp [LineEnd.text]⟩

theorem textOf_not_cr (lines : List Line) (a : List Char) : textOf lines ≠ a ++ ['\r'] := by
  intro h
  obtain hnil | ⟨b, hb⟩ := textOf_end lines
  · rw [hnil] at h
    simp at h
  · exact absurd (List.singleton_inj.mp (List.append_inj' (hb.symm.trans h) rfl).2) (by decide)

theorem append_line_not {text line a : List Char} {c : Char} (hline : c ∉ line) (hne : line ≠ []) :
    text ++ line ≠ a ++ [c] := by
  intro h
  cases line using List.reverseRecOn with
  | nil => exact hne rfl
  | append_singleton line x =>
    rw [← List.append_assoc] at h
    obtain rfl := List.singleton_inj.mp (List.append_inj' h rfl).2
    exact hline (List.mem_append_right _ (List.mem_singleton_self _))

/-- **Lines that are pending**: they complete no frame, and if the last of them is empty, nothing
is pending. -/
structure Pending (lines : List Line) (pending : List (List Char)) : Prop where
  clean : cutFrame (textOf lines) = none
  oneLine : ∀ line ∈ lines, OneLine line.1
  filled : pending = (lines.map Prod.fst).filter (· ≠ [])
  empty : ∀ before line, lines = before ++ [line] → line.1 = [] → pending = []

theorem parse_pending {lines : List Line} {line : Line} (h : ∀ l ∈ lines ++ [line], OneLine l.1)
    {cut : List Char} (hcut : cut = [] ∨ cut = ['\r']) :
    parseEventFrame (textOf lines ++ line.1 ++ cut) =
      eventOf (((lines ++ [line]).map Prod.fst).filter (· ≠ [])) := by
  have hlines := fun l hl => h l (List.mem_append_left _ hl)
  have hline := h line (List.mem_append_right _ (List.mem_singleton_self _))
  rw [parseEventFrame, List.append_assoc, splitLines_textOf hlines, eventOf_filter, List.map_append]
  obtain rfl | rfl := hcut
  · rw [List.append_nil, splitLines_last hline]
    rfl
  · have hsplit : [line.1, []] = [line.1] ++ [[]] := rfl
    rw [splitLines_cut hline, hsplit, ← eventOf_filter, ← List.append_assoc, List.filter_append]
    exact (congrArg eventOf (List.append_nil _)).trans (eventOf_filter _)

theorem eventsIn_cut {text frame : List Char} (h : cutFrame text = some (frame, []))
    (rest : List Char) :
    eventsIn (text ++ rest) = (parseEventFrame frame).toList ++ eventsIn rest := by
  rw [eventsIn_some (cutFrame_append h rest)]
  rfl

theorem pending_nil : Pending [] [] where
  clean := rfl
  oneLine := fun line hline => absurd hline List.not_mem_nil
  filled := rfl
  empty := fun before line h => absurd h (by simp)

variable {lines : List Line} {pending : List (List Char)}

/-- A line that is not empty is pending with those before it. -/
theorem Pending.line (h : Pending lines pending) {line : Line} (hline : OneLine line.1)
    (hne : line.1 ≠ []) : Pending (lines ++ [line]) (pending ++ [line.1]) where
  clean := by
    rw [textOf_concat]
    refine cutFrame_end (cutFrame_line h.clean hline) (fun a => append_line_not hline.1 hne) _
      (fun _ a => append_line_not hline.2 hne) fun _ a ha => ?_
    refine append_line_not (a := a ++ ['\r']) hline.2 hne (ha.trans ?_)
    rw [List.append_assoc]
    rfl
  oneLine := fun l hl => (List.mem_append.mp hl).elim (h.oneLine l) fun hl =>
    List.mem_singleton.mp hl ▸ hline
  filled := by
    rw [h.filled, List.map_append, List.filter_append]
    rw [List.map_singleton, List.filter_cons_of_pos (by simpa using hne), List.filter_nil]
  empty := fun before l hl hempty => by
    obtain ⟨-, hl⟩ := List.append_inj' hl rfl
    exact absurd (List.singleton_inj.mp hl ▸ hempty) hne

theorem Pending.blank (h : Pending lines []) (lineEnd : LineEnd)
    (hlf : lineEnd = .lf → ∀ a, textOf lines ≠ a ++ ['\n'])
    (hcrlf : lineEnd = .crlf → ∀ a, textOf lines ≠ a ++ ['\r', '\n']) :
    Pending (lines ++ [([], lineEnd)]) [] where
  clean := by
    rw [textOf_concat, List.append_nil]
    exact cutFrame_end h.clean (textOf_not_cr lines) lineEnd hlf hcrlf
  oneLine := fun l hl => (List.mem_append.mp hl).elim (h.oneLine l) fun hl =>
    List.mem_singleton.mp hl ▸ ⟨List.not_mem_nil, List.not_mem_nil⟩
  filled := by
    rw [List.map_append, List.filter_append, ← h.filled]
    rfl
  empty := fun _ _ _ _ => rfl

/-- **An empty line ends the frame** of the lines before it, if it is seen. -/
theorem Pending.ends {before : Line} (h : Pending (lines ++ [before]) pending) {lineEnd : LineEnd}
    (hends : lineEnd = .lf ∨ before.2 = .crlf) (rest : List Char) :
    eventsIn (textOf (lines ++ [before]) ++ lineEnd.text ++ rest) =
      (eventOf pending).toList ++ eventsIn rest := by
  obtain ⟨text, ends⟩ := before
  have hevent : ∀ cut, cut = [] ∨ cut = ['\r'] →
      parseEventFrame (textOf lines ++ text ++ cut) = eventOf pending := by
    intro cut hcut
    rw [h.filled]
    exact parse_pending h.oneLine hcut
  have hclean := h.clean
  rw [textOf_concat] at hclean ⊢
  dsimp only at hclean ⊢
  generalize textOf lines ++ text = front at hclean hevent ⊢
  cases lineEnd with
  | lf =>
    cases ends with
    | lf =>
      have hcut : cutFrame (front ++ ['\n'] ++ ['\n']) = some (front, []) :=
        cutFrame_complete hclean (d := ['\n', '\n']) (by simp [delimiters]) (by simp)
      rw [← hevent [] (.inl rfl), List.append_nil]
      exact eventsIn_cut hcut rest
    | crlf =>
      have hcut : cutFrame (front ++ ['\r', '\n'] ++ ['\n']) = some (front ++ ['\r'], []) :=
        cutFrame_complete hclean (d := ['\n', '\n']) (by simp [delimiters]) (by simp)
      rw [← hevent ['\r'] (.inr rfl)]
      exact eventsIn_cut hcut rest
  | crlf =>
    obtain hlf | rfl : LineEnd.crlf = .lf ∨ ends = .crlf := hends
    · cases hlf
    · have hhalf : cutFrame (front ++ ['\r', '\n'] ++ ['\r']) = none := by
        refine cutFrame_incomplete hclean (fun _ a ha => ?_) (fun hc => absurd hc (by decide))
          fun hc => absurd hc (by decide)
        have hcut : (front ++ ['\r']) ++ ['\n'] = a ++ ['\r'] := by simpa [LineEnd.text] using ha
        exact absurd (List.singleton_inj.mp (List.append_inj' hcut rfl).2) (by decide)
      have hcut : cutFrame (front ++ ['\r', '\n'] ++ ['\r'] ++ ['\n']) = some (front, []) :=
        cutFrame_complete hhalf (d := ['\r', '\n', '\r', '\n']) (by simp [delimiters]) (by simp)
      rw [← hevent [] (.inl rfl), List.append_nil]
      have hevents := eventsIn_cut hcut rest
      rwa [List.append_assoc (front ++ _)] at hevents

/-- **The frames of lines** have the events of those lines. -/
theorem eventsIn_lines (rest : List Line) (tail : List Char) (h : Pending lines pending)
    (hrest : ∀ line ∈ rest, OneLine line.1) (htail : OneLine tail)
    (hseen : List.IsChain Seen (lines.getLast?.toList ++ rest)) :
    eventsIn (textOf lines ++ textOf rest ++ tail) = lineEvents pending rest := by
  induction rest generalizing lines pending with
  | nil =>
    have hclean : cutFrame (textOf lines ++ textOf [] ++ tail) = none :=
      cutFrame_line ((congrArg cutFrame (List.append_nil _)).trans h.clean) htail
    rw [eventsIn, framesOf_none hclean]
    rfl
  | cons line rest ih =>
    -- one line after another; an empty one ends a frame or is pending
    have hline := hrest line List.mem_cons_self
    have hlines : ∀ l ∈ rest, OneLine l.1 := fun l hl => hrest l (List.mem_cons_of_mem _ hl)
    have hchain : List.IsChain Seen (((lines ++ [line]).getLast?).toList ++ rest) := by
      rw [List.getLast?_concat]
      exact hseen.right_of_append
    have hmore : textOf lines ++ textOf (line :: rest) ++ tail =
        textOf (lines ++ [line]) ++ textOf rest ++ tail := by
      rw [← textOf_append, ← textOf_append, List.append_assoc lines]
      rfl
    obtain ⟨text, lineEnd⟩ := line
    by_cases hempty : text = []
    · subst hempty
      rw [lineEvents, if_pos rfl]
      cases lines using List.reverseRecOn with
      | nil =>
        obtain rfl : pending = [] := h.filled
        rw [hmore]
        refine (ih (pending_nil.blank lineEnd ?_ ?_) hlines hchain).trans rfl
        · exact fun _ a => by simp [textOf]
        · exact fun _ a => by simp [textOf]
      | append_singleton lines before =>
        by_cases hends : lineEnd = .lf ∨ before.2 = .crlf
        · -- the frame ends here, and what follows begins anew
          have hcut := h.ends hends (textOf rest ++ tail)
          have hnew := ih pending_nil hlines (List.IsChain.tail hseen.right_of_append)
          rw [textOf_concat (lines ++ [before]), List.append_nil] at hmore
          rw [hmore, List.append_assoc _ (textOf rest), hcut]
          exact congrArg (_ ++ ·) hnew
        · -- LF before CRLF: seen only after an empty line, with nothing pending
          obtain ⟨hlineEnd, hbefore⟩ := not_or.mp hends
          have hcrlf : lineEnd = .crlf := by
            cases lineEnd with
            | lf => exact absurd rfl hlineEnd
            | crlf => rfl
          have hlf : before.2 = .lf := by
            cases hb : before.2 with
            | lf => rfl
            | crlf => exact absurd hb hbefore
          have hpair : Seen before ([], lineEnd) := by
            rw [List.getLast?_concat] at hseen
            exact (List.isChain_cons_cons.mp hseen).1
          have hblank : before.1 = [] := by
            by_contra hne
            exact hpair ⟨hne, hlf, rfl, hcrlf⟩
          obtain rfl : pending = [] := h.empty lines before rfl hblank
          rw [hmore]
          refine (ih (h.blank lineEnd (fun hc => absurd hc hlineEnd) fun _ a ha => ?_) hlines
            hchain).trans rfl
          rw [textOf_concat, hblank, hlf, List.append_nil] at ha
          have hsplit : textOf lines ++ ['\n'] = (a ++ ['\r']) ++ ['\n'] := by
            simpa [LineEnd.text] using ha
          exact textOf_not_cr lines a (List.append_inj' hsplit rfl).1
    · rw [lineEvents, if_neg hempty, hmore]
      exact ih (h.line hline hempty) hlines hchain

end AgentRoom.Hosted
