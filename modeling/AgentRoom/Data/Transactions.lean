import Mathlib

/-!
# The transaction boundary

`SqliteTransactionBoundary` of the server: scopes nest, a failed scope takes its database effects
and its deferred callbacks with it, and the root runs the callbacks that are left once it has
committed.

The database driver is a parameter, with what SQLite documents of transactions and savepoints. A
scope's body is a finite script of writes, registrations, inner scopes and `throw`s; a `COMMIT`
that fails is a body that throws last.

The events of a body are its writes and registrations in the order in which they happen, each marked
with whether a scope around it fails. By its law the boundary keeps the writes that are not marked
and runs, of the registrations that are not marked, the first of highest priority of each key.
-/

namespace AgentRoom.Data

/-- What the boundary uses of the driver. `begin` is `BEGIN IMMEDIATE` or `SAVEPOINT`, and
`commit` and `rollback` end what it opened. -/
structure Driver (σ D : Type) where
  contents : σ → D
  inTransaction : σ → Bool
  begin : σ → σ
  commit : σ → σ
  rollback : σ → σ
  write : (D → D) → σ → σ

/-- **Savepoints.** `marks` are the contents at each open `begin`, the innermost first. -/
structure Driver.Savepoints {σ D : Type} (db : Driver σ D) (marks : σ → List D) : Prop where
  inTransaction : ∀ s, db.inTransaction s = true ↔ marks s ≠ []
  begin : ∀ s, db.contents (db.begin s) = db.contents s ∧
    marks (db.begin s) = db.contents s :: marks s
  commit : ∀ s m ms, marks s = m :: ms →
    db.contents (db.commit s) = db.contents s ∧ marks (db.commit s) = ms
  rollback : ∀ s m ms, marks s = m :: ms →
    db.contents (db.rollback s) = m ∧ marks (db.rollback s) = ms
  write : ∀ f s, db.contents (db.write f s) = f (db.contents s) ∧
    marks (db.write f s) = marks s

/-- An entry of `callbacks`: `DeferredWork` and its key, or `none` for a `Symbol` of its own. -/
structure Deferred (P W : Type) where
  key : Option String
  priority : P
  work : W

/-- The options of `afterCommit`. -/
structure Options (P : Type) where
  key : Option String
  priority : Option P

inductive Script (D P W : Type) where
  | done
  | throw
  | write (effect : D → D) (rest : Script D P W)
  | afterCommit (work : W) (options : Options P) (rest : Script D P W)
  /-- An inner scope; whether the body catches what it throws. -/
  | immediate (body : Script D P W) (caught : Bool) (rest : Script D P W)

/-- The database, its `TransactionState`, and the callbacks that have run so far. -/
structure Boundary (σ P W : Type) where
  db : σ
  callbacks : List (Deferred P W)
  depth : Nat
  managedRoot : Bool
  ran : List W

section Model

variable {σ D P W : Type} [LinearOrder P] [Zero P] (db : Driver σ D)

/-- What a call throws, and the state it leaves. -/
abbrev Outcome (σ P W : Type) := Bool × Boundary σ P W

/-- `database.transaction(work).immediate()`. -/
def transact (work : Boundary σ P W → Outcome σ P W) (b : Boundary σ P W) : Outcome σ P W :=
  let (threw, b) := work { b with db := db.begin b.db }
  if threw then (true, { b with db := db.rollback b.db })
  else (false, { b with db := db.commit b.db })

/-- **`immediate`.** -/
def immediate (work : Boundary σ P W → Outcome σ P W) (b : Boundary σ P W) : Outcome σ P W :=
  let root := b.depth = 0
  let b := if root then
    { b with callbacks := [], managedRoot := !db.inTransaction b.db } else b
  let callbacksBefore := b.callbacks
  let (threw, b) := transact db work { b with depth := b.depth + 1 }
  if threw then
    let b := { b with depth := b.depth - 1, callbacks := callbacksBefore }
    (true, if root then { b with callbacks := [], managedRoot := false } else b)
  else
    let b := { b with depth := b.depth - 1 }
    (false, if root then
      { b with
        callbacks := []
        managedRoot := false
        ran := b.ran ++ b.callbacks.map (·.work) } else b)

/-- `callbacks.get(key)`. -/
def registered (callbacks : List (Deferred P W)) : Option String → Option (Deferred P W)
  | none => none
  | some key => callbacks.find? (·.key = some key)

/-- `callbacks.set(key, entry)`, which keeps the place of a key that is there. -/
def register (callbacks : List (Deferred P W)) (entry : Deferred P W) : List (Deferred P W) :=
  match registered callbacks entry.key with
  | none => callbacks ++ [entry]
  | some existing =>
    if existing.priority < entry.priority then
      callbacks.map fun other => if other.key = entry.key then entry else other
    else callbacks

/-- What `afterCommit` registers. -/
def deferred (work : W) (options : Options P) : Deferred P W where
  key := options.key
  priority := options.priority.getD 0
  work

/-- **`afterCommit`.** -/
def afterCommit (work : W) (options : Options P) (b : Boundary σ P W) : Outcome σ P W :=
  if !db.inTransaction b.db then (false, { b with ran := b.ran ++ [work] })
  else if b.depth = 0 ∨ b.managedRoot = false then (true, b)
  else (false, { b with callbacks := register b.callbacks (deferred work options) })

/-- **The run of a body**, until it throws. -/
def exec : Script D P W → Boundary σ P W → Outcome σ P W
  | .done, b => (false, b)
  | .throw, b => (true, b)
  | .write effect rest, b => exec rest { b with db := db.write effect b.db }
  | .afterCommit work options rest, b =>
    let (threw, b) := afterCommit db work options b
    if threw then (true, b) else exec rest b
  | .immediate body caught rest, b =>
    let (threw, b) := immediate db (exec body) b
    if threw && !caught then (true, b) else exec rest b

end Model

/-! ## The law of the transaction boundary -/

variable {σ D P W : Type}

def Script.throws : Script D P W → Bool
  | .done => false
  | .throw => true
  | .write _ rest | .afterCommit _ _ rest => rest.throws
  | .immediate body caught rest => body.throws && !caught || rest.throws

inductive Event (D P W : Type) where
  | wrote (effect : D → D)
  | registered (entry : Deferred P W)

/-- What happens in a body, marked with whether this scope or one around it fails. -/
def Script.events [Zero P] (doomed : Bool) : Script D P W → List (Bool × Event D P W)
  | .done | .throw => []
  | .write effect rest => (doomed, .wrote effect) :: rest.events doomed
  | .afterCommit work options rest =>
    (doomed, .registered (deferred work options)) :: rest.events doomed
  | .immediate body caught rest =>
    body.events (doomed || body.throws) ++
      if body.throws && !caught then [] else rest.events doomed

/-- The events of the scopes that neither fail nor lie under a failed scope. -/
def surviving (events : List (Bool × Event D P W)) : List (Event D P W) :=
  (events.filter (!·.1)).map (·.2)

def writes (events : List (Event D P W)) : List (D → D) :=
  events.filterMap fun | .wrote effect => some effect | .registered _ => none

def registrations (events : List (Event D P W)) : List (Deferred P W) :=
  events.filterMap fun | .wrote _ => none | .registered entry => some entry

/-- The registration at an index is the first of highest priority of its key. -/
def Wins [LinearOrder P] (entries : List (Deferred P W)) (i : Nat) (entry : Deferred P W) : Prop :=
  entries[i]? = some entry ∧ ∀ (j : Nat) (other : Deferred P W), entries[j]? = some other → j ≠ i →
    entry.key ≠ none → other.key = entry.key →
    other.priority < entry.priority ∨ (other.priority = entry.priority ∧ i < j)

/-! ### The map of callbacks -/

section Callbacks

variable [LinearOrder P] {entries callbacks : List (Deferred P W)}

/-- The map holds the winning registrations, each once. -/
structure Holds (entries callbacks : List (Deferred P W))
    (winners : List (Nat × Deferred P W)) : Prop where
  nodup : winners.Nodup
  wins : ∀ i entry, (i, entry) ∈ winners ↔ Wins entries i entry
  held : callbacks = winners.map (·.2)
  covers : ∀ entry ∈ entries, entry.key ≠ none → ∃ other ∈ callbacks, other.key = entry.key

variable {new entry : Deferred P W} {i : Nat}

omit [LinearOrder P] in
theorem getElem?_append_iff :
    (entries ++ [new])[i]? = some entry ↔
      entries[i]? = some entry ∨ (i = entries.length ∧ entry = new) := by
  grind

theorem wins_append_iff :
    Wins (entries ++ [new]) i entry ↔
      (i = entries.length ∧ entry = new ∧ ∀ (j : Nat) (other : Deferred P W),
        entries[j]? = some other → new.key ≠ none → other.key = new.key →
        other.priority < new.priority) ∨
      (Wins entries i entry ∧ (entry.key ≠ none → new.key = entry.key →
        new.priority ≤ entry.priority)) := by
  have hlt : ∀ (j : Nat) (other : Deferred P W), entries[j]? = some other → j < entries.length :=
    fun j other h => (List.getElem?_eq_some_iff.mp h).1
  constructor
  · rintro ⟨hentry, hbest⟩
    obtain hold | ⟨rfl, rfl⟩ := getElem?_append_iff.mp hentry
    · right
      refine ⟨⟨hold, fun j other hother => hbest j other (getElem?_append_iff.mpr (.inl hother))⟩,
        fun hkey hsame => ?_⟩
      have hne : entries.length ≠ i := Nat.ne_of_gt (hlt i entry hold)
      obtain hless | ⟨heq, -⟩ :=
        hbest entries.length new (getElem?_append_iff.mpr (.inr ⟨rfl, rfl⟩)) hne hkey hsame
      · exact le_of_lt hless
      · exact le_of_eq heq
    · left
      refine ⟨rfl, rfl, fun j other hother hkey hsame => ?_⟩
      have hj := hlt j other hother
      obtain hless | ⟨-, hless⟩ := hbest j other (getElem?_append_iff.mpr (.inl hother))
        (Nat.ne_of_lt hj) hkey hsame
      · exact hless
      · omega
  · rintro (⟨rfl, rfl, hbest⟩ | ⟨⟨hentry, hbest⟩, hnew⟩)
    · refine ⟨getElem?_append_iff.mpr (.inr ⟨rfl, rfl⟩), fun j other hother hne hkey hsame => ?_⟩
      obtain hold | ⟨rfl, -⟩ := getElem?_append_iff.mp hother
      · exact .inl (hbest j other hold hkey hsame)
      · exact absurd rfl hne
    · refine ⟨getElem?_append_iff.mpr (.inl hentry), fun j other hother hne hkey hsame => ?_⟩
      obtain hold | ⟨rfl, rfl⟩ := getElem?_append_iff.mp hother
      · exact hbest j other hold hne hkey hsame
      · obtain hless | heq := lt_or_eq_of_le (hnew hkey hsame)
        · exact .inl hless
        · exact .inr ⟨heq, hlt i entry hentry⟩

theorem Wins.unique {j : Nat} {other : Deferred P W} (h : Wins entries i entry)
    (h' : Wins entries j other) (hkey : entry.key ≠ none) (hsame : other.key = entry.key) :
    i = j ∧ entry = other := by
  by_cases heq : i = j
  · subst heq
    exact ⟨rfl, Option.mem_unique h.1 h'.1⟩
  · have hless := h.2 j other h'.1 (Ne.symm heq) hkey hsame
    have hless' := h'.2 i entry h.1 heq (hsame ▸ hkey) hsame.symm
    obtain hless | ⟨hprio, hless⟩ := hless <;> obtain hless' | ⟨hprio', hless'⟩ := hless'
    · exact absurd hless (lt_asymm hless')
    · exact absurd hprio'.symm (ne_of_lt hless)
    · exact absurd hprio.symm (ne_of_lt hless')
    · omega

variable {winners : List (Nat × Deferred P W)}

omit [LinearOrder P] in
theorem registered_eq_none {key : Option String} (h : registered callbacks key = none)
    (hkey : key ≠ none) : ∀ entry ∈ callbacks, entry.key ≠ key := by
  obtain _ | key := key
  · exact absurd rfl hkey
  · simpa [registered] using h

variable {existing : Deferred P W}

omit [LinearOrder P] in
theorem registered_eq_some {key : Option String} (h : registered callbacks key = some existing) :
    key ≠ none ∧ existing ∈ callbacks ∧ existing.key = key := by
  obtain _ | key := key
  · cases h
  · exact ⟨nofun, List.mem_of_find?_eq_some h, by simpa using List.find?_some h⟩

/-- A key that is not there yet is put at the end. -/
theorem Holds.append (h : Holds entries callbacks winners)
    (hnew : registered callbacks new.key = none) :
    Holds (entries ++ [new]) (callbacks ++ [new]) (winners ++ [(entries.length, new)]) where
  nodup := by
    refine List.nodup_append.mpr ⟨h.nodup, by simp, fun p hp q hq => ?_⟩
    rintro rfl
    obtain rfl := List.mem_singleton.mp hq
    have hlt := (List.getElem?_eq_some_iff.mp ((h.wins _ _).mp hp).1).1
    exact absurd hlt (Nat.lt_irrefl _)
  wins i entry := by
    have hfresh := registered_eq_none hnew
    rw [wins_append_iff, List.mem_append, List.mem_singleton, h.wins, Prod.mk.injEq]
    -- nothing was registered under this key
    have hfirst : ∀ (j : Nat) (other : Deferred P W), entries[j]? = some other →
        new.key ≠ none → other.key ≠ new.key := by
      intro j other hother hkey hsame
      obtain ⟨c, hc, hckey⟩ := h.covers other (List.mem_of_getElem? hother) (hsame ▸ hkey)
      exact hfresh hkey c hc (hckey.trans hsame)
    constructor
    · rintro (hwins | ⟨rfl, rfl⟩)
      · exact .inr ⟨hwins, fun hkey hsame =>
          absurd hsame.symm (hfirst i entry hwins.1 (hsame ▸ hkey))⟩
      · exact .inl ⟨rfl, rfl, fun j other hother hkey hsame =>
          absurd hsame (hfirst j other hother hkey)⟩
    · rintro (⟨rfl, rfl, -⟩ | ⟨hwins, -⟩)
      · exact .inr ⟨rfl, rfl⟩
      · exact .inl hwins
  held := by simp [h.held]
  covers entry hentry hkey := by
    obtain hold | rfl := List.mem_append.mp hentry |>.imp_right List.mem_singleton.mp
    · obtain ⟨other, hother, hsame⟩ := h.covers entry hold hkey
      exact ⟨other, List.mem_append_left _ hother, hsame⟩
    · exact ⟨entry, by simp, rfl⟩

/-- A higher priority takes the place of the entry. -/
theorem Holds.replace (h : Holds entries callbacks winners)
    (hexisting : registered callbacks new.key = some existing)
    (hprio : existing.priority < new.priority) :
    Holds (entries ++ [new])
      (callbacks.map fun other => if other.key = new.key then new else other)
      (winners.map fun p => if p.2.key = new.key then (entries.length, new) else p) := by
  obtain ⟨hkey, hin, hsame⟩ := registered_eq_some hexisting
  rw [h.held] at hin
  obtain ⟨⟨i₀, found⟩, hwinner, hfound⟩ := List.mem_map.mp hin
  obtain rfl : found = existing := hfound
  have hwins₀ := (h.wins _ _).mp hwinner
  -- the key had one winner, the callback that was registered
  have honly : ∀ i entry, Wins entries i entry → entry.key = new.key →
      i = i₀ ∧ entry = found := fun i entry hwins hkey' =>
    hwins.unique hwins₀ (hkey' ▸ hkey) (hsame.trans hkey'.symm)
  -- which beat the others, so the new one does
  have hbest : ∀ (j : Nat) (other : Deferred P W), entries[j]? = some other →
      new.key ≠ none → other.key = new.key → other.priority < new.priority := by
    intro j other hother _ hkey'
    by_cases hj : j = i₀
    · subst hj
      obtain rfl := Option.mem_unique hwins₀.1 hother
      exact hprio
    · obtain hless | ⟨heq, -⟩ :=
        hwins₀.2 j other hother hj (hsame ▸ hkey) (hkey'.trans hsame.symm)
      · exact lt_trans hless hprio
      · exact heq ▸ hprio
  have hlt : ∀ i entry, Wins entries i entry → i < entries.length := fun i entry hwins =>
    (List.getElem?_eq_some_iff.mp hwins.1).1
  refine ⟨?_, fun i entry => ?_, ?_, fun entry hentry hkey' => ?_⟩
  · refine List.Nodup.map_on ?_ h.nodup
    rintro ⟨i, entry⟩ hp ⟨j, other⟩ hq heq
    have hp := (h.wins i entry).mp hp
    have hq := (h.wins j other).mp hq
    have hi := hlt i entry hp
    have hj := hlt j other hq
    have hi₀ := honly i entry hp
    have hj₀ := honly j other hq
    grind
  · -- a winner is the new callback, or one under another key
    rw [wins_append_iff, List.mem_map]
    constructor
    · rintro ⟨⟨j, other⟩, hp, heq⟩
      have hq := (h.wins j other).mp hp
      simp only at heq
      split at heq
      · obtain ⟨rfl, rfl⟩ := Prod.mk.inj heq
        exact .inl ⟨rfl, rfl, hbest⟩
      · next hother =>
          obtain ⟨rfl, rfl⟩ := Prod.mk.inj heq
          exact .inr ⟨hq, fun _ hsame' => absurd hsame'.symm hother⟩
    · rintro (⟨rfl, rfl, -⟩ | ⟨hwins, hnew⟩)
      · exact ⟨(i₀, found), hwinner, by simp [hsame]⟩
      · have hother : entry.key ≠ new.key := by
          intro hkey'
          obtain ⟨-, rfl⟩ := honly i entry hwins hkey'
          exact absurd hprio (not_lt_of_ge (hnew (hsame ▸ hkey) hsame.symm))
        exact ⟨(i, entry), (h.wins i entry).mpr hwins, by simp [hother]⟩
  · rw [h.held, List.map_map, List.map_map]
    refine List.map_congr_left fun p _ => ?_
    simp only [Function.comp_apply]
    split <;> rfl
  · by_cases hnew : entry.key = new.key
    · exact ⟨new, List.mem_map.mpr ⟨found, h.held ▸ hin, by simp [hsame]⟩, hnew.symm⟩
    · obtain hold | rfl := List.mem_append.mp hentry |>.imp_right List.mem_singleton.mp
      · obtain ⟨other, hother, hkey₁⟩ := h.covers entry hold hkey'
        exact ⟨other, List.mem_map.mpr ⟨other, hother, by simp [hkey₁, hnew]⟩, hkey₁⟩
      · exact absurd rfl hnew

/-- An entry that is no better changes nothing. -/
theorem Holds.keep (h : Holds entries callbacks winners)
    (hexisting : registered callbacks new.key = some existing)
    (hprio : ¬ existing.priority < new.priority) :
    Holds (entries ++ [new]) callbacks winners := by
  obtain ⟨hkey, hin, hsame⟩ := registered_eq_some hexisting
  rw [h.held] at hin
  obtain ⟨⟨i₀, found⟩, hwinner, hfound⟩ := List.mem_map.mp hin
  obtain rfl : found = existing := hfound
  have hwins₀ := (h.wins _ _).mp hwinner
  refine ⟨h.nodup, fun i entry => ?_, h.held, fun entry hentry hkey' => ?_⟩
  · rw [h.wins, wins_append_iff]
    constructor
    · intro hwins
      refine .inr ⟨hwins, fun hkey₁ hsame₁ => ?_⟩
      obtain ⟨-, rfl⟩ := hwins.unique hwins₀ hkey₁ (hsame.trans hsame₁)
      exact le_of_not_gt hprio
    · rintro (⟨rfl, rfl, hbest⟩ | ⟨hwins, -⟩)
      · exact absurd (hbest i₀ found hwins₀.1 hkey hsame) hprio
      · exact hwins
  · obtain hold | rfl := List.mem_append.mp hentry |>.imp_right List.mem_singleton.mp
    · exact h.covers entry hold hkey'
    · exact ⟨found, h.held ▸ hin, hsame⟩

/-- **`set`** keeps the map to the winners. -/
theorem Holds.register (h : Holds entries callbacks winners) (new : Deferred P W) :
    ∃ winners', Holds (entries ++ [new]) (register callbacks new) winners' := by
  unfold Data.register
  split
  · next hnew => exact ⟨_, h.append hnew⟩
  · next existing hexisting =>
      split
      · next hprio => exact ⟨_, h.replace hexisting hprio⟩
      · next hprio => exact ⟨_, h.keep hexisting hprio⟩

theorem holds_foldl (entries : List (Deferred P W)) :
    ∃ winners, Holds entries (entries.foldl Data.register []) winners := by
  induction entries using List.reverseRecOn with
  | nil => exact ⟨[], List.nodup_nil, by simp [Wins], rfl, by simp⟩
  | append_singleton entries new ih =>
    obtain ⟨winners, h⟩ := ih
    rw [List.foldl_append]
    exact h.register new

end Callbacks

/-! ### The run of a body -/

section Bodies

variable [LinearOrder P] [Zero P]

/-- What a body leaves behind if its scope survives. -/
def Script.kept (body : Script D P W) : List (Event D P W) := surviving (body.events false)

omit [LinearOrder P] [Zero P] in
theorem surviving_append (xs ys : List (Bool × Event D P W)) :
    surviving (xs ++ ys) = surviving xs ++ surviving ys := by
  simp [surviving]

omit [LinearOrder P] in
theorem surviving_doomed (body : Script D P W) : surviving (body.events true) = [] := by
  induction body with
  | done | throw => rfl
  | write effect rest ih | afterCommit work options rest ih =>
    simpa [Script.events, surviving] using ih
  | immediate body caught rest ihbody ih =>
    rw [Script.events, Bool.true_or, surviving_append, ihbody]
    split
    · rfl
    · exact ih

omit [LinearOrder P] in
theorem kept_immediate (body : Script D P W) (caught : Bool) (rest : Script D P W) :
    (Script.immediate body caught rest).kept =
      (if body.throws then [] else body.kept) ++
        if body.throws && !caught then [] else rest.kept := by
  rw [Script.kept, Script.events, surviving_append, Bool.false_or]
  cases hthrows : body.throws with
  | true =>
    rw [surviving_doomed]
    split <;> rfl
  | false => rfl

variable {db : Driver σ D} {marks : σ → List D}

/-- What no body changes once it is over, thrown or not. -/
structure Keeps (marks : σ → List D) (b b' : Boundary σ P W) : Prop where
  marks : marks b'.db = marks b.db
  depth : b'.depth = b.depth
  managedRoot : b'.managedRoot = b.managedRoot
  ran : b'.ran = b.ran

/-- The writes and registrations that happened, and no others. -/
structure Does (db : Driver σ D) (events : List (Event D P W)) (b b' : Boundary σ P W) :
    Prop where
  contents : db.contents b'.db =
    (writes events).foldl (fun d effect => effect d) (db.contents b.db)
  callbacks : b'.callbacks = (registrations events).foldl register b.callbacks

omit [LinearOrder P] [Zero P] in
theorem Keeps.trans {b₁ b₂ b₃ : Boundary σ P W} (h : Keeps marks b₁ b₂) (h' : Keeps marks b₂ b₃) :
    Keeps marks b₁ b₃ :=
  ⟨h'.marks.trans h.marks, h'.depth.trans h.depth, h'.managedRoot.trans h.managedRoot,
    h'.ran.trans h.ran⟩

omit [Zero P] in
theorem Does.trans {b₁ b₂ b₃ : Boundary σ P W} {events events' : List (Event D P W)}
    (h : Does db events b₁ b₂) (h' : Does db events' b₂ b₃) :
    Does db (events ++ events') b₁ b₃ where
  contents := by simp [h'.contents, h.contents, writes, List.filterMap_append]
  callbacks := by simp [h'.callbacks, h.callbacks, registrations, List.filterMap_append]

/-- The run of a body inside a managed transaction. -/
structure Ran (db : Driver σ D) (marks : σ → List D) (body : Script D P W)
    (b : Boundary σ P W) (out : Outcome σ P W) : Prop where
  threw : out.1 = body.throws
  keeps : Keeps marks b out.2
  does : body.throws = false → Does db body.kept b out.2

/-- **An inner scope** does what its body does, or nothing. -/
theorem immediate_inner (hdb : db.Savepoints marks) {body : Script D P W} {b : Boundary σ P W}
    (hdepth : b.depth ≠ 0)
    (hbody : ∀ b' : Boundary σ P W, b'.depth ≠ 0 → b'.managedRoot = b.managedRoot →
      marks b'.db ≠ [] → Ran db marks body b' (exec db body b')) :
    (immediate db (exec db body) b).1 = body.throws ∧
      Keeps marks b (immediate db (exec db body) b).2 ∧
      Does db (if body.throws then [] else body.kept) b (immediate db (exec db body) b).2 := by
  obtain ⟨hcontents, hmarks⟩ := hdb.begin b.db
  have hran := hbody { b with db := db.begin b.db, depth := b.depth + 1 } (by simp) rfl
    (by simp [hmarks])
  simp only [immediate, transact, hdepth, if_false]
  generalize exec db body _ = out at hran ⊢
  obtain ⟨threw, b'⟩ := out
  obtain rfl : threw = body.throws := hran.threw
  have hmark : marks b'.db = db.contents b.db :: marks b.db := hran.keeps.marks.trans hmarks
  have hkeeps := hran.keeps
  have hback : b'.depth - 1 = b.depth := by
    rw [show b'.depth = b.depth + 1 from hkeeps.depth, Nat.add_sub_cancel]
  cases hthrows : body.throws with
  | true =>
    obtain ⟨hundone, hrest⟩ := hdb.rollback b'.db _ _ hmark
    exact ⟨rfl, ⟨hrest, hback, hkeeps.managedRoot, hkeeps.ran⟩, hundone, rfl⟩
  | false =>
    obtain ⟨hdone, hrest⟩ := hdb.commit b'.db _ _ hmark
    have hdoes := hran.does hthrows
    refine ⟨rfl, ⟨hrest, hback, hkeeps.managedRoot, hkeeps.ran⟩, ?_, ?_⟩
    · exact hdone.trans (hcontents ▸ hdoes.contents)
    · exact hdoes.callbacks

/-- **A body** runs until it throws; by induction on the script. -/
theorem exec_ran (hdb : db.Savepoints marks) (body : Script D P W) (b : Boundary σ P W)
    (hdepth : b.depth ≠ 0) (hmanaged : b.managedRoot = true) (hopen : marks b.db ≠ []) :
    Ran db marks body b (exec db body b) := by
  induction body generalizing b with
  | done => exact ⟨rfl, ⟨rfl, rfl, rfl, rfl⟩, fun _ => ⟨rfl, rfl⟩⟩
  | throw => exact ⟨rfl, ⟨rfl, rfl, rfl, rfl⟩, nofun⟩
  | write effect rest ih =>
    obtain ⟨hcontents, hmarks⟩ := hdb.write effect b.db
    have hrest := ih { b with db := db.write effect b.db } hdepth hmanaged
      (by rw [hmarks]; exact hopen)
    refine ⟨hrest.threw, ⟨hrest.keeps.marks.trans hmarks, hrest.keeps.depth,
      hrest.keeps.managedRoot, hrest.keeps.ran⟩, fun hthrows => ?_⟩
    have hdoes : Does db [.wrote effect] b { b with db := db.write effect b.db } :=
      ⟨hcontents, rfl⟩
    exact hdoes.trans (hrest.does hthrows)
  | afterCommit work options rest ih =>
    have htransaction := (hdb.inTransaction b.db).mpr hopen
    have hrest := ih { b with callbacks := register b.callbacks (deferred work options) }
      hdepth hmanaged hopen
    -- inside a managed transaction a callback is registered, not run
    have hregisters : afterCommit db work options b =
        (false, { b with callbacks := register b.callbacks (deferred work options) }) := by
      simp [afterCommit, htransaction, hdepth, hmanaged]
    simp only [exec, hregisters, Bool.false_eq_true, if_false]
    refine ⟨hrest.threw, ⟨hrest.keeps.marks, hrest.keeps.depth, hrest.keeps.managedRoot,
      hrest.keeps.ran⟩, fun hthrows => ?_⟩
    have hdoes : Does db [.registered (deferred work options)] b
        { b with callbacks := register b.callbacks (deferred work options) } := ⟨rfl, rfl⟩
    exact hdoes.trans (hrest.does hthrows)
  | immediate body caught rest ihbody ih =>
    obtain ⟨hthrew, hkeeps, hdoes⟩ := immediate_inner hdb hdepth
      fun b' hdepth' hmanaged' hopen' => ihbody b' hdepth' (hmanaged'.trans hmanaged) hopen'
    simp only [exec]
    generalize immediate db (exec db body) b = out at hthrew hkeeps hdoes ⊢
    obtain ⟨threw, b₁⟩ := out
    obtain rfl : threw = body.throws := hthrew
    have hrest := ih b₁ (hkeeps.depth ▸ hdepth) (hkeeps.managedRoot.trans hmanaged)
      (hkeeps.marks ▸ hopen)
    -- an error that is not caught ends the script here
    cases hgone : body.throws && !caught with
    | true =>
      refine ⟨by simp [Script.throws, hgone], hkeeps, fun hthrows => ?_⟩
      simp [Script.throws, hgone] at hthrows
    | false =>
      refine ⟨by simpa [Script.throws, hgone] using hrest.threw, hkeeps.trans hrest.keeps,
        fun hthrows => ?_⟩
      rw [kept_immediate, hgone]
      exact hdoes.trans (hrest.does (by simpa [Script.throws, hgone] using hthrows))

/-! ### The law -/

structure Idle (marks : σ → List D) (b : Boundary σ P W) : Prop where
  marks : marks b.db = []
  depth : b.depth = 0

/-- The events of a root scope that survive. -/
def Script.survivors (body : Script D P W) : List (Event D P W) :=
  surviving (body.events body.throws)

/-- What a root scope does. -/
structure BoundaryLaw (db : Driver σ D) (marks : σ → List D) (body : Script D P W)
    (b : Boundary σ P W) (out : Outcome σ P W) : Prop where
  /-- It throws if its body does, and no transaction stays open. -/
  threw : out.1 = body.throws
  idle : Idle marks out.2
  /-- The writes of the scopes that neither failed nor lie under a failed scope are kept, in
  order, and no others. -/
  contents : db.contents out.2.db =
    (writes body.survivors).foldl (fun d effect => effect d) (db.contents b.db)
  /-- Of the callbacks that those scopes registered, the first of highest priority of each key
  runs, once. -/
  ran : ∃ winners : List (Nat × Deferred P W), winners.Nodup ∧
    (∀ i entry, (i, entry) ∈ winners ↔ Wins (registrations body.survivors) i entry) ∧
    out.2.ran = b.ran ++ winners.map (·.2.work)
  /-- A root that fails leaves the database as it was and runs none. -/
  failed : body.throws = true → db.contents out.2.db = db.contents b.db ∧ out.2.ran = b.ran

/-- **The transaction boundary** keeps what the surviving scopes did, for every script. -/
theorem boundary_law (hdb : db.Savepoints marks) (body : Script D P W) (b : Boundary σ P W)
    (hidle : Idle marks b) : BoundaryLaw db marks body b (immediate db (exec db body) b) := by
  have houtside : db.inTransaction b.db = false :=
    Bool.eq_false_iff.mpr fun h => (hdb.inTransaction b.db).mp h hidle.marks
  obtain ⟨hcontents, hmarks⟩ := hdb.begin b.db
  have hran := exec_ran hdb body
    { b with db := db.begin b.db, callbacks := [], depth := b.depth + 1, managedRoot := true }
    (by simp) rfl (by simp [hmarks])
  simp only [immediate, transact, hidle.depth, if_true, houtside, Bool.not_false] at hran ⊢
  generalize exec db body _ = out at hran ⊢
  obtain ⟨threw, b'⟩ := out
  obtain rfl : threw = body.throws := hran.threw
  have hmark : marks b'.db = db.contents b.db :: marks b.db := hran.keeps.marks.trans hmarks
  have hran_eq : b'.ran = b.ran := hran.keeps.ran
  have hdepth : b'.depth - 1 = 0 := by
    rw [show b'.depth = 0 + 1 from hran.keeps.depth]
  cases hthrows : body.throws with
  | true =>
    have hnone : body.survivors = [] := by rw [Script.survivors, hthrows, surviving_doomed]
    obtain ⟨hundone, hrest⟩ := hdb.rollback b'.db _ _ hmark
    refine ⟨hthrows.symm, ⟨hrest.trans hidle.marks, hdepth⟩, ?_, ⟨[], ?_⟩,
      fun _ => ⟨hundone, hran_eq⟩⟩
    · simpa [hnone, writes] using hundone
    · simpa [hnone, registrations, Wins] using hran_eq
  | false =>
    have hsome : body.survivors = body.kept := by rw [Script.survivors, hthrows, Script.kept]
    obtain ⟨hdone, hrest⟩ := hdb.commit b'.db _ _ hmark
    have hdoes := hran.does hthrows
    obtain ⟨winners, hholds⟩ := holds_foldl (registrations body.kept)
    refine ⟨hthrows.symm, ⟨hrest.trans hidle.marks, hdepth⟩, ?_,
      ⟨winners, hholds.nodup, hsome ▸ hholds.wins, ?_⟩,
      fun h => absurd (hthrows.symm.trans h) Bool.false_ne_true⟩
    · exact hsome ▸ hdone.trans (hcontents ▸ hdoes.contents)
    · have hcallbacks : b'.callbacks = winners.map (·.2) := hdoes.callbacks.trans hholds.held
      simp [hran_eq, hcallbacks]

end Bodies

/-! ### A run -/

/-- A database that keeps the contents at each savepoint. -/
def stackDriver (D : Type) : Driver (D × List D) D where
  contents s := s.1
  inTransaction s := !s.2.isEmpty
  begin s := (s.1, s.1 :: s.2)
  commit s := (s.1, s.2.tail)
  rollback s := (s.2.headD s.1, s.2.tail)
  write f s := (f s.1, s.2)

theorem stackDriver_savepoints (D : Type) : (stackDriver D).Savepoints Prod.snd where
  inTransaction s := by simp [stackDriver]
  begin s := ⟨rfl, rfl⟩
  commit s m ms h := ⟨rfl, by simp [stackDriver, h]⟩
  rollback s m ms h := by simp [stackDriver, h]
  write f s := ⟨rfl, rfl⟩

/-- A failed inner scope that is caught takes its write and its better callback with it. -/
def sampleBody : Script (List Nat) Nat String :=
  .write (1 :: ·) (.afterCommit "first" ⟨some "room", none⟩
    (.immediate (.write (2 :: ·) (.afterCommit "lost" ⟨some "room", some 9⟩ .throw)) true
      (.immediate (.write (3 :: ·) (.afterCommit "better" ⟨some "room", some 1⟩ .done)) false
        (.afterCommit "own" ⟨none, none⟩ .done))))

def sampleBoundary : Boundary (List Nat × List (List Nat)) Nat String where
  db := ([], [])
  callbacks := []
  depth := 0
  managedRoot := false
  ran := []

theorem boundary_law_sample :
    BoundaryLaw (stackDriver (List Nat)) Prod.snd sampleBody sampleBoundary
        (immediate (stackDriver (List Nat)) (exec (stackDriver (List Nat)) sampleBody)
          sampleBoundary) ∧
      (immediate (stackDriver (List Nat)) (exec (stackDriver (List Nat)) sampleBody)
        sampleBoundary).2.db.1 = [3, 1] ∧
      (immediate (stackDriver (List Nat)) (exec (stackDriver (List Nat)) sampleBody)
        sampleBoundary).2.ran = ["better", "own"] :=
  ⟨boundary_law (stackDriver_savepoints _) sampleBody sampleBoundary ⟨rfl, rfl⟩,
    by decide, by decide⟩

end AgentRoom.Data
