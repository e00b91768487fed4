import Anchr.Infra.Machine

/-!
# State in memory, written behind

Every call changes a state in memory at once, takes a text of the whole state and then replaces the
file by it: it writes the text to a temporary file and renames that one over the file. An atomic
replacement is the special case where a write is followed at once by its own rename.
-/

namespace Anchr.Infra

/-- Where the replacement of a call stands. -/
inductive Stage where
  | writing
  | renaming
  | resolved
  | rejected
deriving DecidableEq

def Stage.settled : Stage → Bool
  | .writing | .renaming => false
  | .resolved | .rejected => true

variable {σ ο τ : Type}

/-- A call, with the state it found and the text of the state it left. -/
structure WriteCall (σ ο τ : Type) where
  op : ο
  before : σ
  text : τ
  stage : Stage

/-- The state, the calls made so far in their order, and the two files. -/
structure WriteBehind (σ ο τ : Type) where
  memory : σ
  calls : List (WriteCall σ ο τ)
  file : Option τ
  temp : Option τ

/-- The calls wait for their own replacement only, so the replacements of several calls may overlap.
They share the temporary file. -/
inductive WriteAction (ο τ : Type) where
  | call (op : ο)
  /-- The temporary file of call `k` is written. -/
  | written (k : Nat)
  /-- Writing it fails, which may leave anything there. -/
  | writeFailed (k : Nat) (left : Option τ)
  /-- The rename of call `k` is carried out. It fails if there is no temporary file. -/
  | renamed (k : Nat)
  | renameFailed (k : Nat)

namespace WriteBehind

/-- No call has been made. -/
def opened (memory : σ) (file temp : Option τ) : WriteBehind σ ο τ := ⟨memory, [], file, temp⟩

def at? (s : WriteBehind σ ο τ) (k : Nat) (stage : Stage) : Option (WriteCall σ ο τ) :=
  (s.calls[k]?).filter fun c => c.stage = stage

def move (s : WriteBehind σ ο τ) (k : Nat) (c : WriteCall σ ο τ) (stage : Stage) :
    WriteBehind σ ο τ :=
  { s with calls := s.calls.set k { c with stage } }

variable (apply : σ → ο → σ) (encode : σ → τ)

def step (s : WriteBehind σ ο τ) : WriteAction ο τ → Option (WriteBehind σ ο τ × List Empty)
  | .call op =>
    let memory := apply s.memory op
    let call := { op, before := s.memory, text := encode memory, stage := .writing }
    some ({ s with memory, calls := s.calls ++ [call] }, [])
  | .written k => (s.at? k .writing).map fun c =>
    ({ s.move k c .renaming with temp := some c.text }, [])
  | .writeFailed k left => (s.at? k .writing).map fun c =>
    ({ s.move k c .rejected with temp := left }, [])
  | .renamed k => (s.at? k .renaming).map fun c =>
    match s.temp with
    | some text => ({ s.move k c .resolved with file := some text, temp := none }, [])
    | none => (s.move k c .rejected, [])
  | .renameFailed k => (s.at? k .renaming).map fun c => (s.move k c .rejected, [])

def Oldest (s : WriteBehind σ ο τ) (k : Nat) : Prop := ∀ c ∈ s.calls.take k, c.stage.settled

/-- Call `k` has not changed the state. -/
def Idle (s : WriteBehind σ ο τ) (k : Nat) : Prop :=
  ∀ c ∈ s.calls[k]?, apply c.before c.op = c.before

/-- Every call is settled. -/
def Settled (s : WriteBehind σ ο τ) : Prop := ∀ c ∈ s.calls, c.stage.settled

/-- No call is rejected. -/
def NoneFailed (s : WriteBehind σ ο τ) : Prop := ∀ c ∈ s.calls, c.stage ≠ .rejected

/-- The operations of the calls that were not rejected, one after the other. -/
def replay (memory : σ) (calls : List (WriteCall σ ο τ)) : σ :=
  ((calls.filter fun c => c.stage ≠ .rejected).map WriteCall.op).foldl apply memory

end WriteBehind

/-- The machine: calls are made at any time, and each of the two file operations of a call completes
or fails at any time. -/
def writeBehind (apply : σ → ο → σ) (encode : σ → τ) :
    Machine (WriteBehind σ ο τ) (WriteAction ο τ) Empty :=
  ⟨WriteBehind.step apply encode⟩

/-- Only the oldest open call proceeds, and it fails only if it has changed nothing. -/
def Orderly (apply : σ → ο → σ) (s : WriteBehind σ ο τ) : WriteAction ο τ → Prop
  | .call _ => True
  | .written k | .renamed k => s.Oldest k
  | .writeFailed k _ | .renameFailed k => s.Oldest k ∧ s.Idle apply k

instance [DecidableEq σ] (apply : σ → ο → σ) (s : WriteBehind σ ο τ) (a : WriteAction ο τ) :
    Decidable (Orderly apply s a) := by
  unfold Orderly WriteBehind.Oldest WriteBehind.Idle
  cases a <;> infer_instance

namespace WriteBehind

variable {apply : σ → ο → σ} {encode : σ → τ} {s s' : WriteBehind σ ο τ} {a : WriteAction ο τ}
  {evs : List Empty}

variable {c : WriteCall σ ο τ} {k : Nat} {calls : List (WriteCall σ ο τ)} {memory memory' : σ}

variable {stage : Stage}

theorem at?_eq_some :
    s.at? k stage = some c ↔ s.calls[k]? = some c ∧ c.stage = stage := by
  unfold at?
  rw [Option.filter_eq_some_iff, decide_eq_true_eq]

/-! ## The state in memory -/

/-- From `memory`, the calls have led to `memory'`, each with the text of the state it left. -/
def Follows (apply : σ → ο → σ) (encode : σ → τ) : σ → List (WriteCall σ ο τ) → σ → Prop
  | memory, [], memory' => memory' = memory
  | memory, c :: calls, memory' =>
    c.before = memory ∧ c.text = encode (apply memory c.op) ∧
      Follows apply encode (apply memory c.op) calls memory'

theorem Follows.snoc (op : ο) (h : Follows apply encode memory calls memory') :
    Follows apply encode memory (calls ++ [⟨op, memory', encode (apply memory' op), .writing⟩])
      (apply memory' op) := by
  induction calls generalizing memory with
  | nil =>
    obtain rfl : memory' = memory := h
    exact ⟨rfl, rfl, rfl⟩
  | cons c calls ih => exact ⟨h.1, h.2.1, ih h.2.2⟩

theorem Follows.move (hc : calls[k]? = some c) (stage : Stage)
    (h : Follows apply encode memory calls memory') :
    Follows apply encode memory (calls.set k { c with stage }) memory' := by
  induction calls generalizing memory k with
  | nil => exact h
  | cons d calls ih =>
    cases k with
    | zero =>
      obtain rfl : d = c := by simpa using hc
      exact h
    | succ k => exact ⟨h.1, h.2.1, ih (by simpa using hc) h.2.2⟩

theorem step_cases (h : step apply encode s a = some (s', evs)) :
    (∃ op, a = .call op ∧ s' = { s with
      memory := apply s.memory op
      calls := s.calls ++ [⟨op, s.memory, encode (apply s.memory op), .writing⟩] }) ∨
    ∃ k c stage, s.calls[k]? = some c ∧ s'.calls = s.calls.set k { c with stage } ∧
      s'.memory = s.memory ∧ (stage = .rejected → (∃ left, a = .writeFailed k left) ∨
        a = .renameFailed k ∨ a = .renamed k ∧ c.stage = .renaming ∧ s.temp = none) := by
  cases a with
  | call op =>
    cases h
    exact .inl ⟨op, rfl, rfl⟩
  | written k =>
    obtain ⟨c, hc, heq⟩ := Option.map_eq_some_iff.mp h
    cases heq
    exact .inr ⟨k, c, .renaming, (at?_eq_some.mp hc).1, rfl, rfl, by simp⟩
  | writeFailed k left =>
    obtain ⟨c, hc, heq⟩ := Option.map_eq_some_iff.mp h
    cases heq
    exact .inr ⟨k, c, .rejected, (at?_eq_some.mp hc).1, rfl, rfl, fun _ => .inl ⟨left, rfl⟩⟩
  | renamed k =>
    obtain ⟨c, hc, heq⟩ := Option.map_eq_some_iff.mp h
    split at heq
    next text _ =>
      cases heq
      exact .inr ⟨k, c, .resolved, (at?_eq_some.mp hc).1, rfl, rfl, by simp⟩
    next htemp =>
      cases heq
      obtain ⟨hget, hstage⟩ := at?_eq_some.mp hc
      exact .inr ⟨k, c, .rejected, hget, rfl, rfl, fun _ => .inr (.inr ⟨rfl, hstage, htemp⟩)⟩
  | renameFailed k =>
    obtain ⟨c, hc, heq⟩ := Option.map_eq_some_iff.mp h
    cases heq
    exact .inr ⟨k, c, .rejected, (at?_eq_some.mp hc).1, rfl, rfl, fun _ => .inr (.inl rfl)⟩

/-- In every run, orderly or not, the state is what the calls have made of the first one. -/
theorem follows_step (hs : Follows apply encode memory s.calls s.memory)
    (h : step apply encode s a = some (s', evs)) :
    Follows apply encode memory s'.calls s'.memory := by
  rcases step_cases h with ⟨op, -, rfl⟩ | ⟨k, c, stage, hc, hcalls, hmemory, -⟩
  · exact hs.snoc op
  · rw [hcalls, hmemory]
    exact hs.move hc stage

/-- Leaving out calls that have changed nothing makes no difference to the state. -/
theorem Follows.replay_eq (h : Follows apply encode memory calls memory')
    (hidle : ∀ c ∈ calls, c.stage = .rejected → apply c.before c.op = c.before) :
    memory' = replay apply memory calls := by
  induction calls generalizing memory with
  | nil => exact h
  | cons c calls ih =>
    obtain ⟨hbefore, -, hrest⟩ := h
    have hcalls := ih hrest fun d hd => hidle d (by simp [hd])
    by_cases hc : c.stage = .rejected
    · have hsame := hidle c (by simp) hc
      rw [hbefore] at hsame
      rw [hcalls, hsame]
      simp [replay, hc]
    · rw [hcalls]
      simp [replay, hc]

/-! ## The file in an orderly run -/

/-- The file after the given calls have settled in their order. -/
def installed (file : Option τ) (calls : List (WriteCall σ ο τ)) : Option τ :=
  calls.foldl (fun f c => if c.stage = .resolved then some c.text else f) file

theorem Follows.installed_eq (h : Follows apply encode memory calls memory')
    (hres : ∀ c ∈ calls, c.stage = .resolved) (file : Option τ) :
    (calls = [] ∧ memory' = memory) ∨ installed file calls = some (encode memory') := by
  induction calls generalizing memory file with
  | nil => exact .inl ⟨rfl, h⟩
  | cons c calls ih =>
    obtain ⟨-, htext, hrest⟩ := h
    have hc : installed file (c :: calls) = installed (some c.text) calls := by
      show installed (if c.stage = .resolved then some c.text else file) calls = _
      rw [if_pos (hres c (by simp))]
    right
    rw [hc]
    rcases ih hrest (fun d hd => hres d (by simp [hd])) (some c.text) with ⟨rfl, rfl⟩ | hfile
    · rw [htext]
      rfl
    · exact hfile

/-- The calls are settled up to one that may hold the temporary file; the others wait. -/
structure Progress (file : Option τ) (s : WriteBehind σ ο τ) (done waiting : List (WriteCall σ ο τ)) :
    Prop where
  calls : s.calls = done ++ waiting
  settled : ∀ c ∈ done, c.stage.settled = true
  unsettled : ∀ c ∈ waiting, c.stage.settled = false
  queued : ∀ c ∈ waiting.tail, c.stage = .writing
  current : ∀ c ∈ waiting.head?, c.stage = .renaming → s.temp = some c.text
  file : s.file = installed file done

variable {file : Option τ} {done waiting : List (WriteCall σ ο τ)}

theorem Progress.oldest (h : Progress file s done waiting) (hold : s.Oldest k)
    (hc : s.calls[k]? = some c) (hopen : c.stage.settled = false) :
    ∃ rest, waiting = c :: rest ∧ ∀ c', s.calls.set k c' = done ++ c' :: rest := by
  have hle : done.length ≤ k := by
    by_contra hlt
    rw [h.calls, List.getElem?_append_left (by omega)] at hc
    have hsettled := h.settled c (List.mem_of_getElem? hc)
    rw [hopen] at hsettled
    exact absurd hsettled (by decide)
  obtain ⟨i, rfl⟩ := Nat.exists_eq_add_of_le hle
  rw [h.calls, List.getElem?_append_right hle, Nat.add_sub_cancel_left] at hc
  cases hw : waiting with
  | nil => simp [hw] at hc
  | cons d rest =>
    rw [hw] at hc
    cases i with
    | zero =>
      obtain rfl : d = c := by simpa using hc
      exact ⟨rest, rfl, fun c' => by rw [h.calls, hw]; simp⟩
    | succ i =>
      -- the first one that waits would have settled
      have hmem : d ∈ s.calls.take (done.length + (i + 1)) := by
        rw [h.calls, hw, List.take_length_add_append]
        simp
      have hd := h.unsettled d (by simp [hw])
      rw [hold d hmem] at hd
      exact absurd hd (by decide)

theorem Progress.settle {rest : List (WriteCall σ ο τ)} (h : Progress file s done (c :: rest))
    (hstage : stage.settled = true) (hcalls : s'.calls = done ++ { c with stage } :: rest)
    (hfile : s'.file = if stage = .resolved then some c.text else s.file) :
    Progress file s' (done ++ [{ c with stage }]) rest where
  calls := by rw [hcalls, List.append_assoc, List.singleton_append]
  settled := by
    intro d hd
    rcases List.mem_append.mp hd with hd | hd
    · exact h.settled d hd
    · rw [List.mem_singleton.mp hd]
      exact hstage
  unsettled := fun d hd => h.unsettled d (by simp [hd])
  queued := fun d hd => h.queued d (List.mem_of_mem_tail hd)
  current := by
    intro d hd hrenaming
    rw [h.queued d (List.mem_of_mem_head? hd)] at hrenaming
    exact absurd hrenaming (by decide)
  file := by
    rw [hfile, h.file]
    simp [installed]

theorem Progress.call (h : Progress file s done waiting) (op : ο) :
    Progress file { s with
      memory := apply s.memory op
      calls := s.calls ++ [⟨op, s.memory, encode (apply s.memory op), .writing⟩] } done
      (waiting ++ [⟨op, s.memory, encode (apply s.memory op), .writing⟩]) where
  calls := by rw [h.calls, List.append_assoc]
  settled := h.settled
  unsettled := by
    intro d hd
    rcases List.mem_append.mp hd with hd | hd
    · exact h.unsettled d hd
    · rw [List.mem_singleton.mp hd]
      rfl
  queued := by
    intro d hd
    cases waiting with
    | nil => simp at hd
    | cons c rest =>
      rcases List.mem_append.mp (show d ∈ rest ++ _ from hd) with hd | hd
      · exact h.queued d hd
      · rw [List.mem_singleton.mp hd]
  current := by
    intro d hd hrenaming
    cases waiting with
    | nil =>
      obtain rfl : _ = d := by simpa using hd
      exact absurd hrenaming (by simp)
    | cons c rest => exact h.current d (by simpa using hd) hrenaming
  file := h.file

theorem progress_step (h : Progress file s done waiting) (hguard : Orderly apply s a)
    (hstep : step apply encode s a = some (s', evs)) :
    ∃ done waiting, Progress file s' done waiting := by
  cases a with
  | call op =>
    cases hstep
    exact ⟨_, _, h.call op⟩
  | written k =>
    obtain ⟨c, hc, heq⟩ := Option.map_eq_some_iff.mp hstep
    cases heq
    obtain ⟨hget, hstage⟩ := at?_eq_some.mp hc
    obtain ⟨rest, rfl, hset⟩ := h.oldest hguard hget (by rw [hstage]; rfl)
    refine ⟨done, { c with stage := .renaming } :: rest, hset _, h.settled, ?_, h.queued, ?_, h.file⟩
    · intro d hd
      rcases List.mem_cons.mp hd with rfl | hd
      · rfl
      · exact h.unsettled d (by simp [hd])
    · intro d hd _
      obtain rfl : _ = d := by simpa using hd
      rfl
  | writeFailed k left =>
    obtain ⟨c, hc, heq⟩ := Option.map_eq_some_iff.mp hstep
    cases heq
    obtain ⟨hget, hstage⟩ := at?_eq_some.mp hc
    obtain ⟨rest, rfl, hset⟩ := h.oldest hguard.1 hget (by rw [hstage]; rfl)
    exact ⟨_, _, h.settle rfl (hset _) rfl⟩
  | renamed k =>
    obtain ⟨c, hc, heq⟩ := Option.map_eq_some_iff.mp hstep
    obtain ⟨hget, hstage⟩ := at?_eq_some.mp hc
    obtain ⟨rest, rfl, hset⟩ := h.oldest hguard hget (by rw [hstage]; rfl)
    -- the temporary file is its own
    rw [h.current c (by simp) hstage] at heq
    cases heq
    exact ⟨_, _, h.settle rfl (hset _) rfl⟩
  | renameFailed k =>
    obtain ⟨c, hc, heq⟩ := Option.map_eq_some_iff.mp hstep
    cases heq
    obtain ⟨hget, hstage⟩ := at?_eq_some.mp hc
    obtain ⟨rest, rfl, hset⟩ := h.oldest hguard.1 hget (by rw [hstage]; rfl)
    exact ⟨_, _, h.settle rfl (hset _) rfl⟩

/-! ## Orderly runs -/

/-- What every orderly run keeps. Once all calls have resolved the file is the text of the state
(`file_of_settled`), and a rejected call has left no trace in memory (`memory_eq`). -/
structure OrderlyState (apply : σ → ο → σ) (encode : σ → τ) (memory : σ) (file : Option τ)
    (s : WriteBehind σ ο τ) : Prop where
  follows : Follows apply encode memory s.calls s.memory
  idle : ∀ c ∈ s.calls, c.stage = .rejected → apply c.before c.op = c.before
  progress : ∃ done waiting, Progress file s done waiting

/-- The call a step rejects has changed nothing: its rename never misses the temporary file. -/
theorem Progress.idle_of_rejected (h : Progress file s done waiting) (hguard : Orderly apply s a)
    (hc : s.calls[k]? = some c)
    (ha : (∃ left, a = .writeFailed k left) ∨ a = .renameFailed k ∨
      a = .renamed k ∧ c.stage = .renaming ∧ s.temp = none) :
    apply c.before c.op = c.before := by
  rcases ha with ⟨left, rfl⟩ | rfl | ⟨rfl, hstage, htemp⟩
  · exact hguard.2 c hc
  · exact hguard.2 c hc
  · obtain ⟨rest, rfl, -⟩ := h.oldest hguard hc (by rw [hstage]; rfl)
    rw [h.current c (by simp) hstage] at htemp
    exact absurd htemp (by simp)

theorem OrderlyState.step (h : OrderlyState apply encode memory file s)
    (hguard : Orderly apply s a) (hstep : step apply encode s a = some (s', evs)) :
    OrderlyState apply encode memory file s' := by
  obtain ⟨done, waiting, hprogress⟩ := h.progress
  refine ⟨follows_step h.follows hstep, ?_, progress_step hprogress hguard hstep⟩
  rcases step_cases hstep with ⟨op, -, rfl⟩ | ⟨k, c, stage, hc, hcalls, -, hrejects⟩
  · intro d hd hstage
    rcases List.mem_append.mp hd with hd | hd
    · exact h.idle d hd hstage
    · rw [List.mem_singleton.mp hd] at hstage
      exact absurd hstage (by simp)
  · rw [hcalls]
    intro d hd hstage
    rcases List.mem_or_eq_of_mem_set hd with hd | rfl
    · exact h.idle d hd hstage
    · show apply c.before c.op = c.before
      exact hprogress.idle_of_rejected hguard hc (hrejects hstage)

theorem OrderlyState.run {temp : Option τ} {tr : List Empty}
    (hrun : Run (writeBehind apply encode) (Orderly apply) (opened memory file temp) tr s) :
    OrderlyState apply encode memory file s := by
  refine hrun.invariant (I := fun _ s => OrderlyState apply encode memory file s) ?_ ?_
  · exact ⟨rfl, by simp [opened], [], [], rfl, by simp, by simp, by simp, by simp, rfl⟩
  · intro tr s a s' evs hs hguard hstep
    exact hs.step hguard hstep

/-- A rejected call has left no trace in memory. -/
theorem OrderlyState.memory_eq (h : OrderlyState apply encode memory file s) :
    s.memory = replay apply memory s.calls :=
  h.follows.replay_eq h.idle

/-- When every call has resolved, the file is the text of the state, or nothing was called. -/
theorem OrderlyState.file_of_settled (h : OrderlyState apply encode memory file s)
    (hsettled : s.Settled) (hnone : s.NoneFailed) :
    (s.memory = memory ∧ s.file = file) ∨ s.file = some (encode s.memory) := by
  obtain ⟨done, waiting, hprogress⟩ := h.progress
  have hwaiting : waiting = [] := by
    refine List.eq_nil_iff_forall_not_mem.mpr fun c hc => ?_
    have hopen := hprogress.unsettled c hc
    rw [hsettled c (by rw [hprogress.calls]; simp [hc])] at hopen
    exact absurd hopen (by decide)
  have hcalls : s.calls = done := by rw [hprogress.calls, hwaiting, List.append_nil]
  have hresolved : ∀ c ∈ s.calls, c.stage = .resolved := by
    intro c hc
    have hsettle := hsettled c hc
    have hnot := hnone c hc
    cases hstage : c.stage <;> simp_all [Stage.settled]
  rw [hprogress.file, ← hcalls]
  rcases h.follows.installed_eq hresolved file with ⟨hempty, hmemory⟩ | hfile
  · rw [hempty]
    exact .inl ⟨hmemory, rfl⟩
  · exact .inr hfile

end WriteBehind

end Anchr.Infra
