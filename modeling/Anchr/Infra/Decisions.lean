import Anchr.Infra.CallService

/-!
# Passes that decide

Some calls of a service are passes on a topic. Two passes on the same topic need not come to the
same verdict.
-/

namespace Anchr.Infra

variable {τ π ε α β κ ν : Type}

/-! ## Phases -/

inductive Phase (ν : Type) where
  /-- Nothing is published. -/
  | undecided
  /-- Only this verdict is published, and it may be published again. -/
  | decided (v : ν)
  /-- Nothing more will be published. -/
  | closed

/-- The verdicts of a turn, and the phase after it unless the pass is over. -/
inductive Phase.Move : Phase ν → List ν → Option (Phase ν) → Prop
  | ended (ph : Phase ν) : Move ph [] none
  | wait (ph : Phase ν) : Move ph [] (some ph)
  | close (v : ν) : Move (decided v) [] (some closed)
  | first {v : ν} {ph : Phase ν} : ph = decided v ∨ ph = closed → Move undecided [v] (some ph)
  | again (v : ν) : Move (decided v) [v] (some (decided v))

/-- What a phase says about the verdicts published so far. -/
def Phase.Knows (V : ν → Prop) : Phase ν → Prop
  | undecided => ∀ v, ¬V v
  | decided w => ∀ v, V v → v = w
  | closed => True

def Agree (V : ν → Prop) : Prop := ∀ v w, V v → V w → v = w

variable {ph : Phase ν} {vs : List ν} {tr evs : List ε} {topic : κ} {v : ν} {s s' : CallState τ π}

variable {V : ν → Prop} {turn : CallTurn τ π ε} {call : Nat}

theorem Phase.Knows.congr {W : ν → Prop} (h : ph.Knows V) (hVW : ∀ v, W v ↔ V v) :
    ph.Knows W := by
  have hset : W = V := funext fun v => propext (hVW v)
  rw [hset]
  exact h

theorem Phase.Move.keeps {next : Option (Phase ν)} (hmove : ph.Move vs next) (hknows : ph.Knows V)
    (hagree : Agree V) :
    Agree (fun v => V v ∨ v ∈ vs) ∧
      ∀ ph', next = some ph' → ph'.Knows fun v => V v ∨ v ∈ vs := by
  cases hmove with
  | ended => simpa using hagree
  | wait => simpa using ⟨hagree, hknows⟩
  | close => simpa [Phase.Knows] using hagree
  | @first v next hnext =>
    -- nothing was published before, so this verdict is the only one
    have honly : ∀ w, (V w ∨ w ∈ [v]) → w = v := by
      rintro w (hw | hw)
      · exact absurd hw (hknows w)
      · exact List.mem_singleton.mp hw
    refine ⟨fun w w' hw hw' => (honly w hw).trans (honly w' hw').symm, fun ph' h => ?_⟩
    cases h
    rcases hnext with rfl | rfl
    · exact honly
    · trivial
  | again v =>
    have honly : ∀ w, (V w ∨ w ∈ [v]) → w = v := by
      rintro w (hw | hw)
      · exact hknows w hw
      · exact List.mem_singleton.mp hw
    refine ⟨fun w w' hw hw' => (honly w hw).trans (honly w' hw').symm, fun ph' h => ?_⟩
    cases h
    exact honly

/-! ## Services -/

section

variable (phase : π → Option (κ × Phase ν)) (verdict : ε → Option (κ × ν))

def CallTurn.Moves (topic : κ) (ph : Phase ν) (turn : CallTurn τ π ε) : Prop :=
  ∃ vs next, ph.Move vs next ∧ turn.events.filterMap verdict = vs.map (topic, ·) ∧
    turn.pending.bind phase = next.map (topic, ·)

def CallTurn.Silent (turn : CallTurn τ π ε) : Prop :=
  turn.events.filterMap verdict = [] ∧ turn.pending.bind phase = none

/-- The calls of the service either take up a topic, and move on it, or are silent. -/
structure CallService.Decides (S : CallService τ π ε α β) (takesUp : τ → α → κ → Prop) : Prop where
  begin : ∀ t call a, (∃ topic, takesUp t a topic ∧
    (S.begin t call a).Moves phase verdict topic .undecided) ∨
      (S.begin t call a).Silent phase verdict
  pass : ∀ {t call p b turn topic ph}, S.resume t call p b = some turn →
    phase p = some (topic, ph) → turn.Moves phase verdict topic ph
  silent : ∀ {t call p b turn}, S.resume t call p b = some turn → phase p = none →
    turn.Silent phase verdict

def PublishedOn (tr : List ε) (topic : κ) (v : ν) : Prop :=
  ∃ e ∈ tr, verdict e = some (topic, v)

/-- No pass on the topic is under way, and nothing has been published about it. -/
structure FreshTopic (s : CallState τ π) (tr : List ε) (topic : κ) : Prop where
  idle : ∀ call p ph, s.calls.get? call = some p → phase p ≠ some (topic, ph)
  unpublished : ∀ v, ¬PublishedOn verdict tr topic v

/-- The guard: a call takes up fresh topics only. -/
def TakesUpFresh (takesUp : τ → α → κ → Prop) (s : CallState τ π × List ε) :
    CallAction α β → Prop
  | .begin a => ∀ topic, takesUp s.1.shared a topic → FreshTopic phase verdict s.1 s.2 topic
  | .resume _ _ => True

structure Decided (tr : List ε) (s : CallState τ π) : Prop where
  agree : ∀ topic, Agree (PublishedOn verdict tr topic)
  knows : ∀ call p topic ph, s.calls.get? call = some p → phase p = some (topic, ph) →
    ph.Knows (PublishedOn verdict tr topic)
  alone : ∀ call call' p p' topic ph ph', s.calls.get? call = some p →
    s.calls.get? call' = some p' → phase p = some (topic, ph) → phase p' = some (topic, ph') →
      call = call'

end

variable {phase : π → Option (κ × Phase ν)} {verdict : ε → Option (κ × ν)}

theorem publishedOn_append :
    PublishedOn verdict (tr ++ evs) topic v ↔
      PublishedOn verdict tr topic v ∨ (topic, v) ∈ evs.filterMap verdict := by
  simp only [PublishedOn, List.mem_append, List.mem_filterMap, or_and_right, exists_or]

theorem publishedOn_append_of_ne {other : κ} (hvs : evs.filterMap verdict = vs.map (topic, ·))
    (hne : other ≠ topic) :
    PublishedOn verdict (tr ++ evs) other v ↔ PublishedOn verdict tr other v := by
  rw [publishedOn_append, hvs]
  simp [Ne.symm hne]

theorem publishedOn_append_self (hvs : evs.filterMap verdict = vs.map (topic, ·)) :
    PublishedOn verdict (tr ++ evs) topic v ↔ PublishedOn verdict tr topic v ∨ v ∈ vs := by
  rw [publishedOn_append, hvs]
  simp

theorem freshTopic_of_quiet (hcalls : s.calls.entries = []) (htr : tr.filterMap verdict = [])
    (topic : κ) : FreshTopic phase verdict s tr topic where
  idle call p ph hget := by
    rw [JsMap.get?_eq_some, hcalls] at hget
    cases hget
  unpublished v := by
    rintro ⟨e, he, hv⟩
    have hmem := List.mem_filterMap.mpr ⟨e, he, hv⟩
    rw [htr] at hmem
    cases hmem

theorem Decided.silent (h : Decided phase verdict tr s) (hturn : turn.Silent phase verdict)
    (hcalls : s'.calls = s.calls.place call turn.pending) :
    Decided phase verdict (tr ++ turn.events) s' := by
  obtain ⟨hevents, hpending⟩ := hturn
  have hsame : ∀ topic v, PublishedOn verdict (tr ++ turn.events) topic v ↔
      PublishedOn verdict tr topic v := by
    intro topic v
    rw [publishedOn_append, hevents]
    simp
  -- a pass that is there after the turn was there before
  have hold : ∀ {c p topic ph}, s'.calls.get? c = some p → phase p = some (topic, ph) →
      s.calls.get? c = some p := by
    intro c p topic ph hget hphase
    rw [hcalls, JsMap.get?_place] at hget
    split at hget
    next =>
      rw [hget, Option.bind_some, hphase] at hpending
      cases hpending
    next => exact hget
  refine ⟨fun topic v w hv hw => ?_, fun c p topic ph hget hphase => ?_,
    fun c c' p p' topic ph ph' hget hget' hphase hphase' => ?_⟩
  · exact h.agree topic v w ((hsame topic v).mp hv) ((hsame topic w).mp hw)
  · exact (h.knows c p topic ph (hold hget hphase) hphase).congr (hsame topic)
  · exact h.alone c c' p p' topic ph ph' (hold hget hphase) (hold hget' hphase') hphase hphase'

theorem Decided.moves (h : Decided phase verdict tr s) (hturn : turn.Moves phase verdict topic ph)
    (hcalls : s'.calls = s.calls.place call turn.pending)
    (hknows : ph.Knows (PublishedOn verdict tr topic))
    (honly : ∀ c p ph, s.calls.get? c = some p → phase p = some (topic, ph) → c = call) :
    Decided phase verdict (tr ++ turn.events) s' := by
  obtain ⟨vs, next, hmove, hevents, hpending⟩ := hturn
  obtain ⟨hagree, hnext⟩ := hmove.keeps hknows (h.agree topic)
  have hself : ∀ v, PublishedOn verdict (tr ++ turn.events) topic v ↔
      PublishedOn verdict tr topic v ∨ v ∈ vs := fun v => publishedOn_append_self hevents
  -- a pass after the turn is the one that moved, or an old one on another topic
  have hpass : ∀ {c p other ph'}, s'.calls.get? c = some p → phase p = some (other, ph') →
      (c = call ∧ other = topic ∧ next = some ph') ∨
        (other ≠ topic ∧ s.calls.get? c = some p) := by
    intro c p other ph' hget hphase
    rw [hcalls, JsMap.get?_place] at hget
    split at hget
    next hc =>
      rw [hget, Option.bind_some, hphase] at hpending
      obtain ⟨ph'', hnext, heq⟩ := Option.map_eq_some_iff.mp hpending.symm
      cases heq
      exact .inl ⟨hc, rfl, hnext⟩
    next hc => exact .inr ⟨fun heq => hc (honly c p ph' hget (heq ▸ hphase)), hget⟩
  refine ⟨fun other v w hv hw => ?_, fun c p other ph' hget hphase => ?_,
    fun c c' p p' other ph' ph'' hget hget' hphase hphase' => ?_⟩
  · by_cases hother : other = topic
    · subst hother
      exact hagree v w ((hself v).mp hv) ((hself w).mp hw)
    · exact h.agree other v w ((publishedOn_append_of_ne hevents hother).mp hv)
        ((publishedOn_append_of_ne hevents hother).mp hw)
  · rcases hpass hget hphase with ⟨-, rfl, hph⟩ | ⟨hother, hold⟩
    · exact (hnext ph' hph).congr hself
    · exact (h.knows c p other ph' hold hphase).congr fun v =>
        publishedOn_append_of_ne hevents hother
  · rcases hpass hget hphase with ⟨rfl, rfl, -⟩ | ⟨hother, hold⟩
    · rcases hpass hget' hphase' with ⟨rfl, -, -⟩ | ⟨hother, -⟩
      · rfl
      · exact absurd rfl hother
    · rcases hpass hget' hphase' with ⟨-, rfl, -⟩ | ⟨-, hold'⟩
      · exact absurd rfl hother
      · exact h.alone c c' p p' other ph' ph'' hold hold' hphase hphase'

theorem CallService.Decides.step {S : CallService τ π ε α β} {takesUp : τ → α → κ → Prop}
    (hS : S.Decides phase verdict takesUp) {a : CallAction α β} (h : Decided phase verdict tr s)
    (hguard : TakesUpFresh phase verdict takesUp (s, tr) a)
    (hstep : S.machine.step s a = some (s', evs)) : Decided phase verdict (tr ++ evs) s' := by
  obtain ⟨call, turn, htakes, -, hcalls, rfl⟩ := takes_of_step hstep
  cases htakes with
  | begin a =>
    rcases hS.begin s.shared s.nextCall a with ⟨topic, htakesUp, hmoves⟩ | hsilent
    · have hfresh := hguard topic htakesUp
      exact h.moves hmoves hcalls hfresh.unpublished fun c p ph hget hphase =>
        absurd hphase (hfresh.idle c p ph hget)
    · exact h.silent hsilent hcalls
  | @resume call p b turn hget hresume =>
    cases hphase : phase p with
    | none => exact h.silent (hS.silent hresume hphase) hcalls
    | some on =>
      obtain ⟨topic, ph⟩ := on
      exact h.moves (hS.pass hresume hphase) hcalls (h.knows call p topic ph hget hphase)
        fun c p' ph' hget' hphase' => h.alone c call p' p topic ph' ph hget' hget hphase' hphase

theorem CallService.Decides.agree {S : CallService τ π ε α β} {takesUp : τ → α → κ → Prop}
    (hS : S.Decides phase verdict takesUp) {s₀ : CallState τ π} (hcalls : s₀.calls = .empty)
    {tr : List ε} {s : CallState τ π × List ε}
    (h : Run S.machine.recorded (TakesUpFresh phase verdict takesUp) (s₀, []) tr s) (topic : κ) :
    Agree (PublishedOn verdict tr topic) := by
  have hI : s.2 = tr ∧ Decided phase verdict tr s.1 := by
    refine Run.invariant (I := fun tr s => s.2 = tr ∧ Decided phase verdict tr s.1)
      ⟨rfl, ?_, ?_, ?_⟩ ?_ h
    · rintro topic v w ⟨e, he, -⟩
      cases he
    · intro call p topic ph hget
      rw [hcalls] at hget
      cases hget
    · intro call call' p p' topic ph ph' hget
      rw [hcalls] at hget
      cases hget
    · rintro tr ⟨s, tr'⟩ a s' evs ⟨rfl, hdecided⟩ hguard hstep
      obtain ⟨hstep, hhistory⟩ := Machine.step_of_recorded hstep
      exact ⟨hhistory, hS.step hdecided hguard hstep⟩
  exact hI.2.agree topic

end Anchr.Infra
