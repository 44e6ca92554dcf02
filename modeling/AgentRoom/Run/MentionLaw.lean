import AgentRoom.Run.Handoffs

/-!
# What a text mentions

The scan of `resolveExactAgentMentions` against the rule it stands for: an Agent is mentioned where
`@` and its name stand between boundaries and no longer known name does.

The scan goes on behind the token it found, so it sees every place of a token that cannot overlap
itself.
-/

namespace AgentRoom.Mentions

/-- What stands in a text where a name is mentioned. -/
def mentionToken (name : String) : List Char := '@' :: name.toList

/-- A token stands at the place `k` of a text that `first` precedes, between boundaries. -/
structure StandsAt (token : List Char) (first : Option Char) (cs : List Char) (k : Nat) : Prop where
  occurs : token <+: cs.drop k
  before : isMentionBoundary (if k = 0 then first else cs[k - 1]?) = true
  after : isMentionBoundary cs[k + token.length]? = true

/-- Two places of a token may overlap: its end is also its beginning. -/
def Overlaps (token : List Char) : Prop :=
  ∃ k, 0 < k ∧ k < token.length ∧ token.drop k <+: token

variable {name : String}

/-- A name without an `@` cannot overlap itself. -/
theorem not_overlaps (h : '@' ∉ name.toList) : ¬Overlaps (mentionToken name) := by
  rintro ⟨k, hk, hlt, hprefix⟩
  obtain ⟨j, rfl⟩ : ∃ j, k = j + 1 := ⟨k - 1, by omega⟩
  have hdrop : (mentionToken name).drop (j + 1) = name.toList.drop j := rfl
  rw [hdrop] at hprefix
  cases hrest : name.toList.drop j with
  | nil =>
    rw [List.drop_eq_nil_iff] at hrest
    rw [mentionToken, List.length_cons] at hlt
    omega
  | cons c rest =>
    rw [hrest] at hprefix
    obtain rfl := (List.cons_prefix_cons.mp hprefix).1
    have hc : '@' ∈ name.toList.drop j := hrest ▸ List.mem_cons_self
    exact h (List.mem_of_mem_drop hc)

/-! ## The scan -/

variable {token : List Char} {k : Nat}

theorem standsAt_succ {rest : List Char} {first : Option Char} {c : Char} :
    StandsAt token first (c :: rest) (k + 1) ↔ StandsAt token (some c) rest k := by
  have hbefore : (if k + 1 = 0 then first else (c :: rest)[k + 1 - 1]?) =
      if k = 0 then some c else rest[k - 1]? := by
    cases k with
    | zero => rfl
    | succ k => rfl
  have hafter : (c :: rest)[k + 1 + token.length]? = rest[k + token.length]? := by
    rw [Nat.add_right_comm, List.getElem?_cons_succ]
  constructor
  · rintro ⟨hoccurs, hb, ha⟩
    exact ⟨hoccurs, hbefore ▸ hb, hafter ▸ ha⟩
  · rintro ⟨hoccurs, hb, ha⟩
    exact ⟨hoccurs, hbefore.symm ▸ hb, hafter.symm ▸ ha⟩

theorem StandsAt.skips {cs : List Char} {first : Option Char} (hfree : ¬Overlaps token)
    (hhere : token <+: cs) (h : StandsAt token first cs k) (hk : 0 < k) :
    token.length ≤ k := by
  by_contra hlt
  refine hfree ⟨k, hk, by omega, ?_⟩
  -- both are beginnings of what follows the place `k`
  have hdrop : token.drop k <+: cs.drop k := hhere.drop k
  exact List.prefix_of_prefix_length_le hdrop h.occurs (by rw [List.length_drop]; omega)

/-- **The scan finds the places of a token**: all of them from where it may look again. -/
theorem mem_scan (hne : token ≠ []) (hfree : ¬Overlaps token) {i : Nat} (first : Option Char)
    (index skip : Nat) (cs : List Char) :
    i ∈ scan token first index skip cs ↔
      ∃ k, skip ≤ k ∧ i = index + k ∧ StandsAt token first cs k := by
  induction cs generalizing first index skip with
  | nil =>
    have hnowhere : ∀ k, ¬StandsAt token first [] k := by
      intro k h
      have hnil := h.occurs
      rw [List.drop_nil, List.prefix_nil] at hnil
      exact hne hnil
    simp [scan, hnowhere]
  | cons c rest ih =>
    have hstep : ∀ low, (∃ k, low ≤ k ∧ i = index + 1 + k ∧ StandsAt token (some c) rest k) ↔
        ∃ k, low + 1 ≤ k ∧ i = index + k ∧ StandsAt token first (c :: rest) k := by
      intro low
      constructor
      · rintro ⟨k, hlow, hi, h⟩
        exact ⟨k + 1, by omega, by omega, standsAt_succ.mpr h⟩
      · rintro ⟨k, hlow, hi, h⟩
        obtain ⟨k, rfl⟩ : ∃ j, k = j + 1 := ⟨k - 1, by omega⟩
        exact ⟨k, by omega, by omega, standsAt_succ.mp h⟩
    cases skip with
    | succ skip =>
      rw [scan, ih, hstep]
    | zero =>
      have hpositive : 0 < token.length := List.length_pos_of_ne_nil hne
      rw [scan]
      split
      · rename_i hprefix
        have hhere : token <+: c :: rest := List.isPrefixOf_iff_prefix.mp hprefix
        -- behind a place of the token nothing is missed
        have hlater : i ∈ scan token (some c) (index + 1) (token.length - 1) rest ↔
            ∃ k, 1 ≤ k ∧ i = index + k ∧ StandsAt token first (c :: rest) k := by
          rw [ih, hstep]
          constructor
          · rintro ⟨k, hlow, hi, h⟩
            exact ⟨k, by omega, hi, h⟩
          · rintro ⟨k, hk, hi, h⟩
            have := h.skips hfree hhere hk
            exact ⟨k, by omega, hi, h⟩
        have hzero : StandsAt token first (c :: rest) 0 ↔ (isMentionBoundary first &&
            isMentionBoundary ((c :: rest).drop token.length).head?) = true := by
          rw [Bool.and_eq_true, List.head?_drop]
          constructor
          · rintro ⟨-, hb, ha⟩
            rw [Nat.zero_add] at ha
            exact ⟨hb, ha⟩
          · rintro ⟨hb, ha⟩
            refine ⟨hhere, hb, ?_⟩
            rw [Nat.zero_add]
            exact ha
        dsimp only
        split
        · rename_i hbounds
          rw [List.mem_cons, hlater]
          constructor
          · rintro (rfl | ⟨k, -, hi, h⟩)
            · exact ⟨0, le_rfl, rfl, hzero.mpr hbounds⟩
            · exact ⟨k, Nat.zero_le k, hi, h⟩
          · rintro ⟨k, -, hi, h⟩
            rcases Nat.eq_zero_or_pos k with rfl | hk
            · exact .inl hi
            · exact .inr ⟨k, hk, hi, h⟩
        · rename_i hbounds
          rw [hlater]
          constructor
          · rintro ⟨k, -, hi, h⟩
            exact ⟨k, Nat.zero_le k, hi, h⟩
          · rintro ⟨k, -, hi, h⟩
            rcases Nat.eq_zero_or_pos k with rfl | hk
            · exact absurd (hzero.mp h) hbounds
            · exact ⟨k, hk, hi, h⟩
      · rename_i hprefix
        rw [ih, hstep]
        constructor
        · rintro ⟨k, -, hi, h⟩
          exact ⟨k, Nat.zero_le k, hi, h⟩
        · rintro ⟨k, -, hi, h⟩
          rcases Nat.eq_zero_or_pos k with rfl | hk
          · exact absurd (List.isPrefixOf_iff_prefix.mpr h.occurs) hprefix
          · exact ⟨k, hk, hi, h⟩

theorem mem_findMentionTokens {content : String} (hfree : ¬Overlaps (mentionToken name)) :
    k ∈ findMentionTokens content name ↔
      StandsAt (mentionToken name) none content.toList k := by
  unfold findMentionTokens
  rw [mem_scan (List.cons_ne_nil _ _) hfree]
  simp [mentionToken]

/-! ## The longest name -/

/-- **A name is mentioned at a place**: it stands there, and no longer one of the names does. -/
def MentionedAt (content : String) (names : List String) (name : String) (k : Nat) : Prop :=
  StandsAt (mentionToken name) none content.toList k ∧
    ∀ other ∈ names, StandsAt (mentionToken other) none content.toList k →
      other.length ≤ name.length

/-- The first place where a name is mentioned. -/
def FirstMention (content : String) (names : List String) (name : String) (k : Nat) : Prop :=
  MentionedAt content names name k ∧ ∀ j, MentionedAt content names name j → k ≤ j

/-- No name's token can overlap itself. -/
def Readable (names : List String) : Prop := ∀ name ∈ names, ¬Overlaps (mentionToken name)

variable {names : List String}

theorem MentionedAt.unique {content : String} {other : String}
    (h : MentionedAt content names name k) (hother : MentionedAt content names other k)
    (hname : name ∈ names) (hmem : other ∈ names) : name = other := by
  have hlength : name.toList.length = other.toList.length := by
    have := h.2 other hmem hother.1
    have := hother.2 name hname h.1
    simp only [String.length_toList]
    omega
  have htokens : mentionToken name = mentionToken other := by
    refine List.IsPrefix.eq_of_length (List.prefix_of_prefix_length_le h.1.occurs hother.1.occurs
      ?_) ?_
    all_goals simp only [mentionToken, List.length_cons]; omega
  exact String.toList_inj.mp (List.cons.inj htokens).2

theorem mem_candidates {content : String} (hnames : Readable names) :
    (k, name) ∈ candidates content names ↔
      name ∈ names ∧ StandsAt (mentionToken name) none content.toList k := by
  unfold candidates
  rw [List.mem_flatMap]
  constructor
  · rintro ⟨other, hmem, hfound⟩
    obtain ⟨j, hj, heq⟩ := List.mem_map.mp hfound
    obtain ⟨rfl, rfl⟩ := Prod.mk.inj heq
    exact ⟨hmem, (mem_findMentionTokens (hnames other hmem)).mp hj⟩
  · rintro ⟨hmem, hstands⟩
    exact ⟨name, hmem,
      List.mem_map.mpr ⟨k, (mem_findMentionTokens (hnames name hmem)).mpr hstands, rfl⟩⟩

/-- `longestMentionIndex` is the first place of the name. -/
theorem longestMentionIndex_eq_some {content : String} (hnames : Readable names)
    (hname : name ∈ names) :
    longestMentionIndex content names name = some k ↔ FirstMention content names name k := by
  have hmem : ∀ j, j ∈ ((candidates content names).filterMap fun candidate =>
      if candidate.2 = name ∧ ∀ other ∈ candidates content names, other.1 = candidate.1 →
          other.2.length ≤ candidate.2.length then some candidate.1 else none) ↔
        MentionedAt content names name j := by
    intro j
    rw [List.mem_filterMap]
    constructor
    · rintro ⟨⟨i, found⟩, hcandidate, hif⟩
      rw [Option.ite_none_right_eq_some] at hif
      obtain ⟨⟨rfl, hlongest⟩, hi⟩ := hif
      obtain rfl : i = j := Option.some.inj hi
      refine ⟨((mem_candidates hnames).mp hcandidate).2, fun other hother hstands => ?_⟩
      exact hlongest (i, other) ((mem_candidates hnames).mpr ⟨hother, hstands⟩) rfl
    · rintro ⟨hstands, hlongest⟩
      refine ⟨(j, name), (mem_candidates hnames).mpr ⟨hname, hstands⟩, if_pos ⟨rfl, ?_⟩⟩
      rintro ⟨i, other⟩ hother rfl
      obtain ⟨hmem, hthere⟩ := (mem_candidates hnames).mp hother
      exact hlongest other hmem hthere
  unfold longestMentionIndex FirstMention
  rw [List.min?_eq_some_iff, hmem]
  simp only [hmem]

theorem FirstMention.eq {content : String} {i : Nat} (hi : FirstMention content names name i)
    (hk : FirstMention content names name k) : i = k :=
  Nat.le_antisymm (hi.2 k hk.1) (hk.2 i hi.1)

theorem FirstMention.mono {content : String} {names' : List String}
    (hsame : ∀ other, other ∈ names ↔ other ∈ names') (h : FirstMention content names name k) :
    FirstMention content names' name k := by
  simpa only [FirstMention, MentionedAt, hsame] using h

/-! ## In the order of the places -/

variable {α : Type} {l : List (α × Nat)}

theorem byIndex_eq {l' : List (α × Nat)} (hl : (l.map (·.2)).Nodup) (hl' : (l'.map (·.2)).Nodup)
    (hsame : ∀ x, x ∈ l ↔ x ∈ l') : byIndex l = byIndex l' := by
  have hperm : l.Perm l' :=
    (List.perm_ext_iff_of_nodup (List.Nodup.of_map _ hl) (List.Nodup.of_map _ hl')).mpr hsame
  have hsorts : (l.insertionSort fun a b => a.2 ≤ b.2).Perm
      (l'.insertionSort fun a b => a.2 ≤ b.2) :=
    (List.perm_insertionSort _ l).trans (hperm.trans (List.perm_insertionSort _ l').symm)
  unfold byIndex
  rw [hsorts.eq_of_pairwise ?_ (List.pairwise_insertionSort _ l) (List.pairwise_insertionSort _ l')]
  intro a b ha hb hab hba
  have ha' : a ∈ l := (List.mem_insertionSort _).mp ha
  have hb' : b ∈ l := (hsame b).mpr ((List.mem_insertionSort _).mp hb)
  exact List.inj_on_of_nodup_map hl ha' hb' (Nat.le_antisymm hab hba)

theorem byIndex_pairwise (hl : (l.map (·.2)).Nodup) {R : α → α → Prop}
    (h : ∀ x ∈ l, ∀ y ∈ l, x.2 < y.2 → R x.1 y.1) : (byIndex l).Pairwise R := by
  have hplaces : ((l.insertionSort fun a b => a.2 ≤ b.2).map (·.2)).Nodup :=
    ((List.perm_insertionSort _ l).map _).nodup_iff.mpr hl
  have hsorted := (List.pairwise_insertionSort (fun a b : α × Nat => a.2 ≤ b.2) l).and
    (List.pairwise_map.mp hplaces)
  refine List.pairwise_map.mpr (hsorted.imp_of_mem ?_)
  rintro x y hx hy ⟨hle, hne⟩
  exact h x ((List.mem_insertionSort _).mp hx) y ((List.mem_insertionSort _).mp hy) (by omega)

theorem mem_byIndex {a : α} : a ∈ byIndex l ↔ ∃ k, (a, k) ∈ l := by
  unfold byIndex
  constructor
  · intro h
    obtain ⟨⟨b, k⟩, hmem, rfl⟩ := List.mem_map.mp h
    exact ⟨k, (List.mem_insertionSort _).mp hmem⟩
  · rintro ⟨k, hmem⟩
    exact List.mem_map.mpr ⟨(a, k), (List.mem_insertionSort _).mpr hmem, rfl⟩

/-! ## The names found -/

theorem nodup_eraseDups [DecidableEq α] (l : List α) : l.eraseDups.Nodup := by
  induction hlength : l.length using Nat.strongRecOn generalizing l with
  | ind n ih =>
    cases l with
    | nil => exact List.nodup_nil
    | cons a rest =>
      rw [List.eraseDups_cons, List.nodup_cons]
      refine ⟨fun hmem => ?_, ih _ ?_ _ rfl⟩
      · simpa using (List.mem_filter.mp (List.mem_eraseDups.mp hmem)).2
      · have := List.length_filter_le (fun b => !b == a) rest
        rw [List.length_cons] at hlength
        omega

/-- `names` and where they are first mentioned. -/
def found (content : String) (knownAgents : List MentionableAgent) : List (String × Nat) :=
  let names := (knownAgents.map (·.name)).eraseDups
  names.filterMap fun name =>
    (longestMentionIndex content names name).map fun index => (name, index)

variable {content : String} {agents knownAgents : List MentionableAgent}

/-- No known name's token can overlap itself. -/
def NamesReadable (knownAgents : List MentionableAgent) : Prop :=
  Readable (knownAgents.map (·.name))

theorem NamesReadable.eraseDups (h : NamesReadable knownAgents) :
    Readable (knownAgents.map (·.name)).eraseDups :=
  fun name hname => h name (List.mem_eraseDups.mp hname)

theorem mem_found (hnames : NamesReadable knownAgents) :
    (name, k) ∈ found content knownAgents ↔ name ∈ knownAgents.map (·.name) ∧
      FirstMention content (knownAgents.map (·.name)) name k := by
  have hsame : ∀ other, other ∈ (knownAgents.map (·.name)).eraseDups ↔
      other ∈ knownAgents.map (·.name) := fun other => List.mem_eraseDups
  unfold found
  rw [List.mem_filterMap]
  constructor
  · rintro ⟨other, hmem, hindex⟩
    obtain ⟨j, hj, heq⟩ := Option.map_eq_some_iff.mp hindex
    obtain ⟨rfl, rfl⟩ := Prod.mk.inj heq
    exact ⟨(hsame _).mp hmem,
      ((longestMentionIndex_eq_some hnames.eraseDups hmem).mp hj).mono hsame⟩
  · rintro ⟨hmem, hfirst⟩
    have hmem' := (hsame name).mpr hmem
    refine ⟨name, hmem', Option.map_eq_some_iff.mpr ⟨k, ?_, rfl⟩⟩
    exact (longestMentionIndex_eq_some hnames.eraseDups hmem').mpr
      (hfirst.mono fun other => (hsame other).symm)

theorem found_places (hnames : NamesReadable knownAgents) :
    ((found content knownAgents).map (·.2)).Nodup := by
  have hnodup : (found content knownAgents).Nodup := by
    refine List.Nodup.filterMap ?_ (nodup_eraseDups _)
    intro a b x ha hb
    obtain ⟨i, -, rfl⟩ := Option.map_eq_some_iff.mp ha
    obtain ⟨j, -, heq⟩ := Option.map_eq_some_iff.mp hb
    exact (Prod.mk.inj heq).1.symm
  refine hnodup.map_on ?_
  rintro ⟨name, i⟩ hname ⟨other, j⟩ hother rfl
  have hleft := (mem_found hnames).mp hname
  have hright := (mem_found hnames).mp hother
  rw [hleft.2.1.unique hright.2.1 hleft.1 hright.1]

/-! ## The Agents found -/

/-- **A text mentions an eligible Agent**, the only one of its name, first at the place `k`. -/
structure MentionOf (content : String) (agents knownAgents : List MentionableAgent)
    (agent : MentionableAgent) (k : Nat) : Prop where
  known : agent ∈ knownAgents
  eligible : agent.agentId ∈ agents.map (·.agentId)
  unique : ∀ other ∈ knownAgents, other.name = agent.name → other = agent
  first : FirstMention content (knownAgents.map (·.name)) agent.name k

/-- `matches`: what the loop collects for a name. -/
def matchAt (eligible : List AgentId) (sameNameAgents : List MentionableAgent) (index : Nat) :
    Option (AgentId × Nat) :=
  match sameNameAgents with
  | [agent] => if agent.agentId ∈ eligible then some (agent.agentId, index) else none
  | _ => none

/-- `ambiguous`: what the loop collects for a name. -/
def ambiguousAt (eligible : List AgentId) (sameNameAgents : List MentionableAgent) (name : String)
    (index : Nat) : Option (String × Nat) :=
  match sameNameAgents with
  | [_] => none
  | sameNameAgents =>
    if sameNameAgents.any (·.agentId ∈ eligible) then some (name, index) else none

def matched (content : String) (agents knownAgents : List MentionableAgent) :
    List (AgentId × Nat) :=
  (found content knownAgents).filterMap fun place =>
    matchAt (agents.map (·.agentId)) (knownAgents.filter (·.name = place.1)) place.2

def ambiguous (content : String) (agents knownAgents : List MentionableAgent) :
    List (String × Nat) :=
  (found content knownAgents).filterMap fun place =>
    ambiguousAt (agents.map (·.agentId)) (knownAgents.filter (·.name = place.1)) place.1 place.2

theorem resolve_eq (hall : containsExactAllMention content = false) :
    resolveExactAgentMentions content agents knownAgents =
      { agentIds := byIndex (matched content agents knownAgents)
        ambiguousNames := byIndex (ambiguous content agents knownAgents), usesAll := false } := by
  unfold resolveExactAgentMentions
  rw [if_neg (by rw [hall]; exact Bool.false_ne_true)]
  rfl

variable {eligible : List AgentId}

theorem matchAt_eq_some {sameNameAgents : List MentionableAgent} {index : Nat} {id : AgentId} :
    matchAt eligible sameNameAgents index = some (id, k) ↔
      ∃ agent, sameNameAgents = [agent] ∧ agent.agentId = id ∧ id ∈ eligible ∧ index = k := by
  unfold matchAt
  split
  · rename_i agent
    rw [Option.ite_none_right_eq_some]
    constructor
    · rintro ⟨hmem, heq⟩
      obtain ⟨rfl, rfl⟩ := Prod.mk.inj (Option.some.inj heq)
      exact ⟨agent, rfl, rfl, hmem, rfl⟩
    · rintro ⟨other, hone, rfl, hmem, rfl⟩
      obtain rfl := (List.cons.inj hone).1
      exact ⟨hmem, rfl⟩
  · rename_i hmany
    constructor
    · nofun
    · rintro ⟨agent, rfl, -⟩
      exact absurd rfl (hmany agent)

theorem filterMap_places {β : Type} {l : List (β × Nat)} {f : β × Nat → Option (α × Nat)}
    (hf : ∀ x y, f x = some y → y.2 = x.2) (h : (l.map (·.2)).Nodup) :
    ((l.filterMap f).map (·.2)).Nodup := by
  refine List.pairwise_map.mpr ((List.pairwise_map.mp h).filterMap f ?_)
  intro a b hab x hx y hy
  rw [hf a x hx, hf b y hy]
  exact hab

theorem matched_places (hnames : NamesReadable knownAgents) :
    ((matched content agents knownAgents).map (·.2)).Nodup := by
  refine filterMap_places ?_ (found_places hnames)
  rintro x ⟨id, k⟩ h
  obtain ⟨agent, -, -, -, rfl⟩ := matchAt_eq_some.mp h
  rfl

theorem ambiguous_places (hnames : NamesReadable knownAgents) :
    ((ambiguous content agents knownAgents).map (·.2)).Nodup := by
  refine filterMap_places ?_ (found_places hnames)
  rintro x y h
  unfold ambiguousAt at h
  split at h
  · cases h
  · rw [Option.ite_none_right_eq_some] at h
    rw [← Option.some.inj h.2]

theorem mem_matched (hnames : NamesReadable knownAgents)
    (hids : (knownAgents.map (·.agentId)).Nodup) {id : AgentId} :
    (id, k) ∈ matched content agents knownAgents ↔
      ∃ agent, agent.agentId = id ∧ MentionOf content agents knownAgents agent k := by
  unfold matched
  rw [List.mem_filterMap]
  constructor
  · rintro ⟨⟨name, index⟩, hfound, hmatch⟩
    obtain ⟨agent, hone, rfl, heligible, rfl⟩ := matchAt_eq_some.mp hmatch
    have hmem : ∀ other, other ∈ [agent] ↔ other ∈ knownAgents ∧ other.name = name := by
      intro other
      rw [← hone, List.mem_filter, decide_eq_true_iff]
    obtain ⟨hknown, rfl⟩ := (hmem agent).mp (List.mem_singleton_self agent)
    refine ⟨agent, rfl, hknown, heligible, fun other hother hsame => ?_,
      ((mem_found hnames).mp hfound).2⟩
    exact List.mem_singleton.mp ((hmem other).mpr ⟨hother, hsame⟩)
  · rintro ⟨agent, rfl, hmentions⟩
    refine ⟨(agent.name, k), (mem_found hnames).mpr
      ⟨List.mem_map_of_mem hmentions.known, hmentions.first⟩, matchAt_eq_some.mpr
      ⟨agent, ?_, rfl, hmentions.eligible, rfl⟩⟩
    have hnodup : (knownAgents.filter (·.name = agent.name)).Nodup :=
      (List.Nodup.of_map _ hids).filter _
    refine List.perm_singleton.mp ((List.perm_ext_iff_of_nodup hnodup
      (List.nodup_singleton agent)).mpr fun other => ?_)
    rw [List.mem_filter, decide_eq_true_iff, List.mem_singleton]
    constructor
    · rintro ⟨hother, hsame⟩
      exact hmentions.unique other hother hsame
    · rintro rfl
      exact ⟨hmentions.known, rfl⟩

theorem ambiguousAt_many {l : List MentionableAgent} (hmany : ∀ agent, l ≠ [agent]) (name : String)
    (index : Nat) :
    ambiguousAt eligible l name index =
      if l.any (·.agentId ∈ eligible) then some (name, index) else none := by
  unfold ambiguousAt
  split
  · exact absurd rfl (hmany _)
  · rfl

theorem ambiguousAt_perm {eligible' : List AgentId} {l l' : List MentionableAgent}
    (heligible : ∀ id, id ∈ eligible ↔ id ∈ eligible') (hperm : l.Perm l') (name : String)
    (index : Nat) : ambiguousAt eligible l name index = ambiguousAt eligible' l' name index := by
  by_cases hone : ∃ agent, l = [agent]
  · obtain ⟨agent, rfl⟩ := hone
    obtain rfl := List.singleton_perm.mp hperm
    rfl
  · have hany : l.any (·.agentId ∈ eligible) = l'.any (·.agentId ∈ eligible') := by
      rw [Bool.eq_iff_iff, List.any_eq_true, List.any_eq_true]
      simp only [hperm.mem_iff, heligible]
    rw [ambiguousAt_many fun agent h => hone ⟨agent, h⟩, ambiguousAt_many ?_, hany]
    rintro agent rfl
    exact hone ⟨agent, List.perm_singleton.mp hperm⟩

theorem MentionOf.perm {agents' knownAgents' : List MentionableAgent}
    (hagents : agents.Perm agents') (hknown : knownAgents.Perm knownAgents')
    {agent : MentionableAgent} (h : MentionOf content agents knownAgents agent k) :
    MentionOf content agents' knownAgents' agent k where
  known := hknown.mem_iff.mp h.known
  eligible := (hagents.map _).mem_iff.mp h.eligible
  unique other hother := h.unique other (hknown.mem_iff.mpr hother)
  first := h.first.mono fun _ => (hknown.map _).mem_iff

/-! ## The law -/

/-- **The law of exact mentions.** -/
structure ResolutionLaw (content : String) (agents knownAgents : List MentionableAgent) : Prop where
  /-- The reserved name stands for every eligible Agent, in the order of the list. -/
  all : (∃ k, StandsAt (mentionToken "all") none content.toList k) →
    resolveExactAgentMentions content agents knownAgents =
      { agentIds := (agents.map (·.agentId)).eraseDups, ambiguousNames := [], usesAll := true }
  /-- Without it, the Agents returned are those mentioned. -/
  exact : (∀ k, ¬StandsAt (mentionToken "all") none content.toList k) → ∀ id,
    id ∈ (resolveExactAgentMentions content agents knownAgents).agentIds ↔
      ∃ agent k, agent.agentId = id ∧ MentionOf content agents knownAgents agent k
  /-- Each is returned once. -/
  once : (resolveExactAgentMentions content agents knownAgents).agentIds.Nodup
  /-- They are in the order of their first mentions. -/
  ordered : (∀ k, ¬StandsAt (mentionToken "all") none content.toList k) →
    (resolveExactAgentMentions content agents knownAgents).agentIds.Pairwise fun a b =>
      ∀ left right i j, left.agentId = a → right.agentId = b →
        MentionOf content agents knownAgents left i →
        MentionOf content agents knownAgents right j → i < j
  /-- The order of the lists does not count. -/
  unordered : (∀ k, ¬StandsAt (mentionToken "all") none content.toList k) →
    ∀ agents' knownAgents', agents.Perm agents' → knownAgents.Perm knownAgents' →
      resolveExactAgentMentions content agents' knownAgents' =
        resolveExactAgentMentions content agents knownAgents

theorem containsExactAllMention_iff : containsExactAllMention content = true ↔
    ∃ k, StandsAt (mentionToken "all") none content.toList k := by
  have hfree : ¬Overlaps (mentionToken "all") := not_overlaps (by decide)
  unfold containsExactAllMention
  rw [decide_eq_true_iff]
  constructor
  · intro h
    obtain ⟨k, hk⟩ := List.exists_mem_of_ne_nil _ h
    exact ⟨k, (mem_findMentionTokens hfree).mp hk⟩
  · rintro ⟨k, hk⟩
    exact List.ne_nil_of_mem ((mem_findMentionTokens hfree).mpr hk)

/-- **`resolveExactAgentMentions` keeps its law**, where no known name can overlap itself. -/
theorem exact_mention_resolution (content : String) (agents knownAgents : List MentionableAgent)
    (hids : (knownAgents.map (·.agentId)).Nodup) (hnames : NamesReadable knownAgents) :
    ResolutionLaw content agents knownAgents := by
  have hnone : (∀ k, ¬StandsAt (mentionToken "all") none content.toList k) →
      containsExactAllMention content = false := by
    intro hnowhere
    rw [Bool.eq_false_iff, ne_eq, containsExactAllMention_iff]
    rintro ⟨k, hstands⟩
    exact hnowhere k hstands
  have hmem : ∀ id k, (id, k) ∈ matched content agents knownAgents ↔ ∃ agent, agent.agentId = id ∧
      MentionOf content agents knownAgents agent k := fun id k => mem_matched hnames hids
  -- an Agent is first mentioned at one place
  have hplace : ∀ id i, (id, i) ∈ matched content agents knownAgents → ∀ agent k,
      agent.agentId = id → MentionOf content agents knownAgents agent k → i = k := by
    rintro id i hmatched agent k rfl hmention
    obtain ⟨other, hid, hother⟩ := (hmem _ i).mp hmatched
    obtain rfl := List.inj_on_of_nodup_map hids hother.known hmention.known hid
    exact hother.first.eq hmention.first
  have hall : ∀ h : ∃ k, StandsAt (mentionToken "all") none content.toList k,
      resolveExactAgentMentions content agents knownAgents =
        { agentIds := (agents.map (·.agentId)).eraseDups, ambiguousNames := [], usesAll := true } :=
    fun h => if_pos (containsExactAllMention_iff.mpr h)
  -- sorted by their places, the Agents are in the order of their mentions
  have hordered : (byIndex (matched content agents knownAgents)).Pairwise fun a b =>
      ∀ left right i j, left.agentId = a → right.agentId = b →
        MentionOf content agents knownAgents left i →
        MentionOf content agents knownAgents right j → i < j := by
    refine byIndex_pairwise (matched_places hnames) ?_
    rintro ⟨a, i'⟩ ha ⟨b, j'⟩ hb hlt left right i j hleft hright hi hj
    rw [← hplace a i' ha left i hleft hi, ← hplace b j' hb right j hright hj]
    exact hlt
  refine { all := hall, exact := ?_, once := ?_, ordered := ?_, unordered := ?_ }
  · intro hnowhere id
    rw [resolve_eq (hnone hnowhere), mem_byIndex]
    simp only [hmem]
    exact exists_comm
  · by_cases h : ∃ k, StandsAt (mentionToken "all") none content.toList k
    · rw [hall h]
      exact nodup_eraseDups _
    · rw [resolve_eq (hnone (not_exists.mp h))]
      refine hordered.imp_of_mem ?_
      rintro a b ha - hafter rfl
      obtain ⟨k, hmatched⟩ := mem_byIndex.mp ha
      obtain ⟨agent, hid, hmention⟩ := (hmem a k).mp hmatched
      exact Nat.lt_irrefl k (hafter agent agent k k hid hid hmention hmention)
  · intro hnowhere
    rw [resolve_eq (hnone hnowhere)]
    exact hordered
  · intro hnowhere agents' knownAgents' hagents hknown
    have hids' : (knownAgents'.map (·.agentId)).Nodup := (hknown.map _).nodup_iff.mp hids
    have hnames' : NamesReadable knownAgents' := fun name hname =>
      hnames name ((hknown.map _).mem_iff.mpr hname)
    rw [resolve_eq (hnone hnowhere), resolve_eq (hnone hnowhere)]
    congr 1
    · -- the same Agents at the same places, whatever the order of the lists
      refine byIndex_eq (matched_places hnames') (matched_places hnames) ?_
      rintro ⟨id, k⟩
      rw [hmem, mem_matched hnames' hids']
      constructor
      · rintro ⟨agent, hid, hmention⟩
        exact ⟨agent, hid, hmention.perm hagents.symm hknown.symm⟩
      · rintro ⟨agent, hid, hmention⟩
        exact ⟨agent, hid, hmention.perm hagents hknown⟩
    · refine byIndex_eq (ambiguous_places hnames') (ambiguous_places hnames) fun y => ?_
      unfold ambiguous
      rw [List.mem_filterMap, List.mem_filterMap]
      have hfound : ∀ place, place ∈ found content knownAgents' ↔
          place ∈ found content knownAgents := by
        rintro ⟨name, k⟩
        rw [mem_found hnames', mem_found hnames, (hknown.map _).mem_iff]
        refine and_congr_right fun _ => ⟨.mono fun other => (hknown.map _).mem_iff.symm, .mono ?_⟩
        exact fun other => (hknown.map _).mem_iff
      refine exists_congr fun place => and_congr (hfound place) ?_
      rw [ambiguousAt_perm (fun id => (hagents.map _).mem_iff) (hknown.filter _)]

/-- A longer known name stands at its place, and both names are found. -/
theorem exact_mention_resolution_byron :
    ResolutionLaw "@Ada Byron, see @Ada" [⟨1, "Ada"⟩] [⟨1, "Ada"⟩, ⟨2, "Ada Byron"⟩] :=
  exact_mention_resolution _ _ _ (by decide) (by
    intro name hname
    have hat : '@' ∉ name.toList := by
      simp only [List.map_cons, List.map_nil, List.mem_cons, List.not_mem_nil, or_false] at hname
      rcases hname with rfl | rfl
      all_goals decide
    exact not_overlaps hat)

/-- The reserved name returns Agents whose names the text does not hold, in the order of the
list. -/
theorem all_returns_unnamed :
    (resolveExactAgentMentions "@all" [⟨1, "Ada"⟩, ⟨2, "Bob"⟩] [⟨1, "Ada"⟩, ⟨2, "Bob"⟩]).agentIds =
        [1, 2] ∧
      (resolveExactAgentMentions "@all" [⟨2, "Bob"⟩, ⟨1, "Ada"⟩]
        [⟨2, "Bob"⟩, ⟨1, "Ada"⟩]).agentIds = [2, 1] ∧
      ∀ k, ¬StandsAt (mentionToken "Ada") none "@all".toList k := by
  refine ⟨by decide +kernel, by decide +kernel, fun k h => ?_⟩
  have hshort := h.occurs.length_le
  have hlength : ("@all".toList.drop k).length = 4 - k := by rw [List.length_drop]; rfl
  have htoken : (mentionToken "Ada").length = 4 := rfl
  obtain rfl : k = 0 := by omega
  exact absurd h.occurs (by decide)

end AgentRoom.Mentions
