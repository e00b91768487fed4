import Anchr.Infra.Machine
import Anchr.Proofs.ReplayGuard

/-!
# What the replay guard remembers

The guard is meant to be a set of the keys that were added last: at most `maxEntries` of them, none
older than the retention. The eviction relies on the entries being in the order of their times, and
`Map.set` leaves a key that is there in its place. So the order is lost when a key is added again
that is neither forgotten nor the newest.
-/

namespace Anchr.Proofs

open Infra

namespace ReplayGuard

/-! ## Runs of a guard -/

/-- The methods of a guard. -/
inductive GuardCall where
  | use (call : Use)
  | clear
  | size

/-- A guard, and the time. -/
structure GuardState where
  guard : ReplayGuard
  /-- The latest reading of the clock. -/
  clock : JsNumber := .negInf

def Use.now : Use → JsNumber
  | .has _ now | .add _ now => now

def size (g : ReplayGuard) : Nat := g.seen.entries.length

/-- `has` and `size` answer with `remembers` and `size`. -/
def guardMachine : Machine GuardState GuardCall GuardCall where
  step s call :=
    match call with
    | .use u => some ({ guard := s.guard.use u, clock := u.now }, [call])
    | .clear => some ({ s with guard := { s.guard with seen := .empty } }, [call])
    | .size => some (s, [call])

/-- The clock does not go back, and a key that is added again is the newest entry. -/
def InOrder (s : GuardState) : GuardCall → Prop
  | .use (.has _ now) => s.clock.le now = true
  | .use (.add key now) => s.clock.le now = true ∧
      (s.guard.seen.has key = false ∨ s.guard.seen.entries.getLast?.map Prod.fst = some key)
  | .clear | .size => True

instance (s : GuardState) (call : GuardCall) : Decidable (InOrder s call) := by
  cases call with
  | use u => cases u <;> unfold InOrder <;> infer_instance
  | clear | size => exact .isTrue trivial

def addTo (l : List (String × JsNumber)) : GuardCall → List (String × JsNumber)
  | .use (.add key now) => l.filter (fun e => e.1 ≠ key) ++ [(key, now)]
  | .use (.has ..) | .size => l
  | .clear => []

/-- The keys added since the last `clear`, with the times of their latest `add`, oldest first. -/
def latestAdds (tr : List GuardCall) : List (String × JsNumber) := tr.foldl addTo []

/-- The latest `add` of the key is at most the retention ago, and the keys added since then leave
room for it. -/
def Recent (retentionMs maxEntries : JsNumber) (tr : List GuardCall) (key : String)
    (now : JsNumber) : Prop :=
  ∃ t newer, (key, t) :: newer <:+ latestAdds tr ∧ (now.sub retentionMs).le t = true ∧
    maxEntries.lt (.ofInt (newer.length + 1)) = false

/-- There are no more entries than allowed, each is for a key whose latest `add` is at most the
retention ago. -/
def Bounded (g : ReplayGuard) (tr : List GuardCall) (now : JsNumber) : Prop :=
  g.Roomy ∧ ∀ e ∈ g.seen.entries, e ∈ latestAdds tr ∧ (now.sub g.retentionMs).le e.2 = true

/-! ## Eviction -/

variable {α : Type} {g : ReplayGuard} {retentionMs maxEntries now : JsNumber} {key : String}

theorem trim_spec (hmax : maxEntries.lt (.ofInt 1) = false) : ∀ l : List α,
    maxEntries.lt (.ofInt (trim maxEntries l).length) = false ∧
      ∀ e newer, e :: newer <:+ l → (trim maxEntries l).length ≤ newer.length →
        maxEntries.lt (.ofInt (newer.length + 1)) = true
  | [] => ⟨lt_ofInt_of_le (Nat.zero_le 1) hmax, fun e newer h => by simp at h⟩
  | entry :: rest => by
    obtain ⟨hroom, hlost⟩ := trim_spec hmax rest
    unfold trim
    split
    next hfull =>
      refine ⟨hroom, fun e newer hsuffix hle => ?_⟩
      rcases List.suffix_cons_iff.mp hsuffix with heq | hsuffix
      · obtain ⟨-, rfl⟩ := List.cons.inj heq
        exact hfull
      · exact hlost e newer hsuffix hle
    next hfits =>
      refine ⟨by simpa using hfits, fun e newer hsuffix hle => ?_⟩
      have hlength := hsuffix.length_le
      simp only [List.length_cons] at hle hlength
      omega

theorem dropWhile_spec (p : α → Bool) : ∀ l : List α, ∀ e newer, e :: newer <:+ l →
    (l.dropWhile p).length ≤ newer.length → p e = true
  | [], _, _, h, _ => by simp at h
  | entry :: rest, e, newer, hsuffix, hle => by
    rw [List.dropWhile_cons] at hle
    split at hle
    next hp =>
      rcases List.suffix_cons_iff.mp hsuffix with heq | hsuffix
      · rwa [(List.cons.inj heq).1]
      · exact dropWhile_spec p rest e newer hsuffix hle
    have hlength := hsuffix.length_le
    simp only [List.length_cons] at hle hlength
    omega

/-- With the entries in the order of their times, all survivors are young enough. -/
theorem le_of_mem_survivors (hsorted : g.seen.entries.Pairwise fun a b => a.2.le b.2 = true)
    {e : String × JsNumber} (he : e ∈ g.survivors now) :
    (now.sub g.retentionMs).le e.2 = true := by
  have hmem := (trim_suffix _ _).mem he
  have hne := List.ne_nil_of_mem hmem
  have hhead := List.head_dropWhile_not _ hne
  have hkept := hsorted.sublist (List.dropWhile_suffix _ |>.sublist : List.Sublist
    (g.seen.entries.dropWhile fun entry => !(now.sub g.retentionMs).le entry.2) _)
  rw [Bool.not_eq_false'] at hhead
  rw [← List.cons_head_tail hne] at hmem hkept
  rcases List.mem_cons.mp hmem with rfl | hmem
  · exact hhead
  · exact JsNumber.le_trans hhead ((List.pairwise_cons.mp hkept).1 e hmem)

/-- What does not survive is too old, or there is no room for it. -/
theorem lost_of_survivors (hmax : g.maxEntries.lt (.ofInt 1) = false) {e : String × JsNumber}
    {newer : List (String × JsNumber)} (hsuffix : e :: newer <:+ g.seen.entries)
    (hle : (g.survivors now).length ≤ newer.length) :
    (now.sub g.retentionMs).le e.2 = false ∨
      g.maxEntries.lt (.ofInt (newer.length + 1)) = true := by
  by_cases hkept : (g.seen.entries.dropWhile fun entry =>
      !(now.sub g.retentionMs).le entry.2).length ≤ newer.length
  · exact .inl (by simpa using dropWhile_spec _ _ e newer hsuffix hkept)
  · have hlength : (e :: newer).length ≤ _ := Nat.succ_le_of_lt (Nat.lt_of_not_le hkept)
    have hin := List.suffix_of_suffix_length_le hsuffix (List.dropWhile_suffix _) hlength
    exact .inr ((trim_spec hmax _).2 e newer hin hle)

/-! ## Runs in order -/

/-- What a run in order keeps, where `l` are the latest adds. -/
structure Tracks (retentionMs maxEntries : JsNumber) (l : List (String × JsNumber))
    (s : GuardState) : Prop where
  retention : s.guard.retentionMs = retentionMs
  cap : s.guard.maxEntries = maxEntries
  nodup : (l.map Prod.fst).Nodup
  sorted : l.Pairwise fun a b => a.2.le b.2 = true
  past : ∀ e ∈ l, e.2.le s.clock = true
  held : s.guard.seen.entries <:+ l
  /-- What is not held any more is too old, or there is no room for it. -/
  lost : ∀ e newer, e :: newer <:+ l → s.guard.seen.entries.length ≤ newer.length →
    (s.clock.sub retentionMs).le e.2 = false ∨ maxEntries.lt (.ofInt (newer.length + 1)) = true

variable {l : List (String × JsNumber)} {s : GuardState} {e : String × JsNumber}

theorem Tracks.later (h : Tracks retentionMs maxEntries l s) (he : e ∈ l)
    (hclock : s.clock.le now = true) (hold : (s.clock.sub retentionMs).le e.2 = false) :
    (now.sub retentionMs).le e.2 = false := by
  by_contra hlive
  rw [JsNumber.sub_le_of_later (h.past e he) hclock (by simpa using hlive)] at hold
  cases hold

theorem Tracks.evict (h : Tracks retentionMs maxEntries l s)
    (hmax : maxEntries.lt (.ofInt 1) = false) (hclock : s.clock.le now = true) :
    Tracks retentionMs maxEntries l { guard := s.guard.evict now, clock := now } := by
  obtain ⟨rfl, rfl⟩ := And.intro h.retention h.cap
  refine { h with
    retention := rfl
    cap := rfl
    past := fun e he => JsNumber.le_trans (h.past e he) hclock
    held := ((trim_suffix _ _).trans (List.dropWhile_suffix _)).trans h.held
    lost := fun e newer hsuffix hle => ?_ }
  by_cases hheld : s.guard.seen.entries.length ≤ newer.length
  · exact (h.lost e newer hsuffix hheld).imp_left
      (h.later (hsuffix.mem List.mem_cons_self) hclock)
  · have hin := List.suffix_of_suffix_length_le hsuffix h.held
      (Nat.succ_le_of_lt (Nat.lt_of_not_le hheld))
    exact lost_of_survivors hmax hin hle

/-- `has` and the end of `add`. -/
theorem Tracks.bounded (h : Tracks retentionMs maxEntries l s)
    (hmax : maxEntries.lt (.ofInt 1) = false) :
    (s.guard.evict now).Roomy ∧ ∀ e ∈ (s.guard.evict now).seen.entries,
      e ∈ l ∧ (now.sub retentionMs).le e.2 = true := by
  obtain ⟨rfl, rfl⟩ := And.intro h.retention h.cap
  refine ⟨(trim_spec hmax _).1, fun e he => ⟨?_, ?_⟩⟩
  · exact h.held.mem ((s.guard.survivors_sublist now).mem he)
  · exact le_of_mem_survivors (h.sorted.sublist h.held.sublist) he

/-- A key that is new, or the newest, comes to stand at the end. -/
theorem entries_set_newest {m : JsMap String JsNumber}
    (hnew : m.has key = false ∨ m.entries.getLast?.map Prod.fst = some key) (v : JsNumber) :
    (m.set key v).entries = m.entries.filter (fun e => e.1 ≠ key) ++ [(key, v)] := by
  rcases hnew with habsent | hlast
  · have hk : key ∉ m.entries.map Prod.fst := by
      rw [← JsMap.has_iff_mem, habsent]
      simp
    rw [JsMap.entries_set_of_not_mem hk, List.filter_eq_self.mpr fun e he => ?_]
    simpa using fun heq : e.1 = key => hk (heq ▸ List.mem_map_of_mem he)
  · obtain ⟨⟨k, t⟩, hentry, rfl⟩ := Option.map_eq_some_iff.mp hlast
    obtain ⟨older, heq⟩ := List.getLast?_eq_some_iff.mp hentry
    have hnodup := m.nodup
    rw [heq, List.map_append, List.map_singleton, List.nodup_append] at hnodup
    have hne : ∀ e ∈ older, e.1 ≠ k := fun e he =>
      hnodup.2.2 e.1 (List.mem_map_of_mem he) k (List.mem_singleton_self k)
    have hkept : older.map (JsMap.replace k v) = older :=
      (List.map_congr_left fun e he => if_neg (hne e he)).trans (List.map_id _)
    have hall : (older.filter fun e => e.1 ≠ k) = older :=
      List.filter_eq_self.mpr fun e he => by simpa using hne e he
    rw [JsMap.set, dif_pos (by simp [heq])]
    show m.entries.map (JsMap.replace k v) = _
    rw [heq, List.map_append, hkept, List.filter_append, hall]
    simp [JsMap.replace]

theorem suffix_of_filter {p : α → Bool} {l newer' : List α} {e : α}
    (h : e :: newer' <:+ l.filter p) :
    ∃ newer, e :: newer <:+ l ∧ (e :: newer).filter p = e :: newer' := by
  obtain ⟨older, heq⟩ := h
  obtain ⟨front, back, rfl, -, hback⟩ := List.filter_eq_append_iff.mp heq.symm
  obtain ⟨dropped, newer, rfl, -, hp, rfl⟩ := List.filter_eq_cons_iff.mp hback
  exact ⟨newer, ⟨front ++ dropped, List.append_assoc _ _ _⟩, List.filter_cons_of_pos hp⟩

theorem length_filter_key_ge (hnodup : (l.map Prod.fst).Nodup) (key : String) :
    l.length ≤ (l.filter fun e => e.1 ≠ key).length + 1 := by
  induction l with
  | nil => simp
  | cons e l ih =>
    obtain ⟨hnot, hnodup⟩ := List.nodup_cons.mp hnodup
    by_cases hkey : e.1 = key
    · -- no other entry has the key
      have hall : (l.filter fun e => e.1 ≠ key) = l := List.filter_eq_self.mpr fun e' he' => by
        simpa using fun heq : e'.1 = key => hnot (hkey.trans heq.symm ▸ List.mem_map_of_mem he')
      rw [List.filter_cons_of_neg (by simpa using hkey), hall, List.length_cons]
    · rw [List.filter_cons_of_pos (by simpa using hkey)]
      simpa using ih hnodup

theorem Tracks.set (h : Tracks retentionMs maxEntries l s) (hclock : s.clock.le now = true)
    (hnew : s.guard.seen.has key = false ∨
      s.guard.seen.entries.getLast?.map Prod.fst = some key) :
    Tracks retentionMs maxEntries (l.filter (fun e => e.1 ≠ key) ++ [(key, now)])
      { guard := { s.guard with seen := s.guard.seen.set key now }, clock := now } := by
  have hentries := entries_set_newest hnew now
  have hsub : (l.filter fun e => e.1 ≠ key).Sublist l := List.filter_sublist
  have hpast : ∀ e ∈ l.filter (fun e => e.1 ≠ key), e.2.le now = true :=
    fun e he => JsNumber.le_trans (h.past e (hsub.mem he)) hclock
  constructor
  case retention => exact h.retention
  case cap => exact h.cap
  case nodup =>
    rw [List.map_append, List.map_singleton]
    refine (h.nodup.sublist (hsub.map _)).append (List.nodup_singleton key) ?_
    simp
  case sorted =>
    refine List.pairwise_append.mpr ⟨h.sorted.sublist hsub, List.pairwise_singleton _ _, ?_⟩
    intro a ha b hb
    rw [List.mem_singleton.mp hb]
    exact hpast a ha
  case past =>
    intro e he
    rcases List.mem_append.mp he with he | he
    · exact hpast e he
    · rw [List.mem_singleton.mp he]
      exact JsNumber.le_self hclock
  case held =>
    rw [hentries]
    obtain ⟨older, heq⟩ := h.held.filter fun e => e.1 ≠ key
    exact ⟨older, by rw [← List.append_assoc, heq]⟩
  case lost =>
    intro e newer' hsuffix hle
    rw [hentries, List.length_append, List.length_singleton] at hle
    rcases List.suffix_concat_iff.mp hsuffix with hnil | ⟨t, ht, hbefore⟩
    · cases hnil
    · cases t with
      | nil =>
        obtain ⟨-, rfl⟩ := List.cons.inj ht
        simp at hle
      | cons e' newer'' =>
        obtain ⟨rfl, rfl⟩ := List.cons.inj ht
        -- the entry was in the list before, perhaps with the key behind it
        obtain ⟨newer, hin, hfilter⟩ := suffix_of_filter hbefore
        have hlength := congrArg List.length hfilter
        have hlong : (newer''.append [(key, now)]).length = newer''.length + 1 :=
          List.length_append
        rw [hlong] at hle ⊢
        have hlost : s.guard.seen.entries.length ≤ newer.length := by
          by_contra hheld
          have hentry := ((List.suffix_of_suffix_length_le hin h.held
            (Nat.lt_of_not_le hheld)).filter fun e => e.1 ≠ key).length_le
          rw [hlength, List.length_cons] at hentry
          omega
        refine (h.lost e newer hin hlost).imp
          (h.later (hin.mem List.mem_cons_self) hclock) fun hfull => ?_
        have hmore := length_filter_key_ge (h.nodup.sublist (hin.sublist.map _)) key
        rw [hlength, List.length_cons, List.length_cons] at hmore
        by_contra hroom
        have hfits : maxEntries.lt (.ofInt (newer.length + 1)) = false := by
          exact_mod_cast lt_ofInt_of_le hmore (by simpa using hroom)
        rw [hfits] at hfull
        cases hfull

theorem latestAdds_snoc (tr : List GuardCall) (call : GuardCall) :
    latestAdds (tr ++ [call]) = addTo (latestAdds tr) call := by
  unfold latestAdds
  rw [List.foldl_append]
  rfl

theorem Tracks.use (h : Tracks retentionMs maxEntries l s)
    (hmax : maxEntries.lt (.ofInt 1) = false) {u : Use} (horder : InOrder s (.use u)) :
    Tracks retentionMs maxEntries (addTo l (.use u)) { guard := s.guard.use u, clock := u.now } ∧
      (s.guard.use u).Roomy ∧ ∀ e ∈ (s.guard.use u).seen.entries,
        e ∈ addTo l (.use u) ∧ (u.now.sub retentionMs).le e.2 = true := by
  cases u with
  | has key now => exact ⟨h.evict hmax horder, h.bounded hmax⟩
  | add key now =>
    have hset := h.set horder.1 horder.2
    exact ⟨hset.evict hmax (JsNumber.le_self horder.1), hset.bounded hmax⟩

/-- Once it is evicted, the guard holds what it should. -/
theorem Tracks.has_iff (h : Tracks retentionMs maxEntries l s) (hroom : s.guard.Roomy)
    (hlive : ∀ e ∈ s.guard.seen.entries, (s.clock.sub retentionMs).le e.2 = true) :
    s.guard.seen.has key = true ↔ ∃ t newer, (key, t) :: newer <:+ l ∧
      (s.clock.sub retentionMs).le t = true ∧
        maxEntries.lt (.ofInt (newer.length + 1)) = false := by
  rw [JsMap.has_iff_mem]
  constructor
  · intro hmem
    obtain ⟨⟨k, t⟩, he, rfl⟩ := List.mem_map.mp hmem
    obtain ⟨older, newer, heq⟩ := List.append_of_mem he
    have hsuffix : (k, t) :: newer <:+ s.guard.seen.entries := ⟨older, heq.symm⟩
    refine ⟨t, newer, hsuffix.trans h.held, hlive _ he, ?_⟩
    rw [← h.cap]
    exact lt_ofInt_of_le hsuffix.length_le hroom
  · rintro ⟨t, newer, hsuffix, ht, hfits⟩
    have hheld : (key, t) :: newer <:+ s.guard.seen.entries := by
      refine List.suffix_of_suffix_length_le hsuffix h.held (Nat.lt_of_not_le fun hle => ?_)
      rcases h.lost _ newer hsuffix hle with hold | hfull
      · rw [ht] at hold
        cases hold
      · rw [hfits] at hfull
        cases hfull
    exact List.mem_map_of_mem (hheld.mem List.mem_cons_self)

theorem tracks_of_run (hmax : maxEntries.lt (.ofInt 1) = false) {tr : List GuardCall}
    (h : Run guardMachine InOrder
      { guard := { retentionMs := retentionMs, maxEntries := maxEntries } } tr s) :
    Tracks retentionMs maxEntries (latestAdds tr) s := by
  refine Run.invariant (I := fun tr s => Tracks retentionMs maxEntries (latestAdds tr) s)
    ?_ (fun {tr s call s' evs} ih horder hstep => ?_) h
  · exact ⟨rfl, rfl, List.nodup_nil, .nil, by simp [latestAdds], List.suffix_rfl,
      by simp [latestAdds]⟩
  · cases call with
    | use u =>
      cases hstep
      rw [latestAdds_snoc]
      exact (ih.use hmax horder).1
    | clear =>
      cases hstep
      rw [latestAdds_snoc]
      exact ⟨ih.retention, ih.cap, List.nodup_nil, .nil, by simp [addTo], List.suffix_rfl,
        by simp [addTo]⟩
    | size =>
      cases hstep
      rw [latestAdds_snoc]
      exact ih

/-- In every run in which the clock does not go back, and a key that is added again is the newest
entry, the guard answers `has` for just the recent keys, and `add` and `has` leave no more entries
than allowed, all of them young enough. -/
theorem replay_guard_exact (hmax : maxEntries.lt (.ofInt 1) = false) {tr : List GuardCall}
    (h : Run guardMachine InOrder
      { guard := { retentionMs := retentionMs, maxEntries := maxEntries } } tr s) :
    (∀ key now, InOrder s (.use (.has key now)) →
      (s.guard.remembers key now = true ↔ Recent retentionMs maxEntries tr key now)) ∧
    ∀ u, InOrder s (.use u) → Bounded (s.guard.use u) (tr ++ [.use u]) u.now := by
  have htracks := tracks_of_run hmax h
  refine ⟨fun key now horder => ?_, fun u horder => ?_⟩
  · obtain ⟨hevicted, hroom, hlive⟩ := htracks.use hmax horder
    exact hevicted.has_iff hroom fun e he => (hlive e he).2
  · obtain ⟨hused, hroom, hlive⟩ := htracks.use hmax horder
    refine ⟨hroom, ?_⟩
    rw [latestAdds_snoc, hused.retention]
    exact hlive

/-- The key is added at this time. -/
def added (key : String) (t : Int) : GuardCall := .use (.add key (.ofInt t))

/-- A guard for two keys and ten milliseconds. -/
def smallGuard : GuardState where
  guard := { retentionMs := .ofInt 10, maxEntries := .ofInt 2 }

/-- The newest key is added again, and a third one takes the place of the oldest. -/
theorem replay_guard_exact_three :
    ∃ tr s, Run guardMachine InOrder smallGuard tr s ∧
      latestAdds tr = [("a", .ofInt 0), ("b", .ofInt 2), ("c", .ofInt 3)] ∧
      (∀ key now, InOrder s (.use (.has key now)) →
        (s.guard.remembers key now = true ↔ Recent (.ofInt 10) (.ofInt 2) tr key now)) ∧
      ∀ u, InOrder s (.use u) → Bounded (s.guard.use u) (tr ++ [.use u]) u.now := by
  have hadmits : guardMachine.Admits InOrder smallGuard
      [added "a" 0, added "b" 1, added "b" 2, added "c" 3] := by decide +kernel
  obtain ⟨tr, s, hrun, hadds⟩ := Run.exists_of_exec (f := latestAdds)
    (b := [("a", .ofInt 0), ("b", .ofInt 2), ("c", .ofInt 3)]) hadmits (by decide)
  exact ⟨tr, s, hrun, hadds, replay_guard_exact (by decide) hrun⟩

/-- What `has` answers after some calls, and how many keys it leaves. -/
def asked (calls : List GuardCall) (key : String) (now : Int) : Option (Bool × Nat) :=
  (guardMachine.exec smallGuard calls).map fun r =>
    (r.1.guard.remembers key (.ofInt now), (r.1.guard.evict (.ofInt now)).size)

/-- `a` is added again. A third key then takes its place, though it was added last but one; and in
front of `b` it keeps `b` from being forgotten. -/
theorem replay_guard_inexact :
    (asked [added "a" 0, added "b" 1, added "a" 2, added "c" 3] "a" 3 = some (false, 2) ∧
      Recent (.ofInt 10) (.ofInt 2) [added "a" 0, added "b" 1, added "a" 2, added "c" 3] "a"
        (.ofInt 3)) ∧
    asked [added "a" 0, added "b" 1, added "a" 9] "b" 12 = some (true, 2) ∧
      ¬ Recent (.ofInt 10) (.ofInt 2) [added "a" 0, added "b" 1, added "a" 9] "b" (.ofInt 12) := by
  refine ⟨⟨by decide +kernel, .ofInt 2, [("c", .ofInt 3)], ⟨[("b", .ofInt 1)], by decide +kernel⟩,
    by decide +kernel, by decide +kernel⟩, by decide +kernel, ?_⟩
  rintro ⟨t, newer, hsuffix, hlive, -⟩
  have hmem : ("b", t) ∈ [("b", JsNumber.ofInt 1), ("a", .ofInt 9)] :=
    hsuffix.mem List.mem_cons_self
  obtain rfl : t = .ofInt 1 := by simpa using hmem
  revert hlive
  decide +kernel

end ReplayGuard

end Anchr.Proofs
