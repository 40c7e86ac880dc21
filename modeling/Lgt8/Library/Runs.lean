import Mathlib.Tactic

/-!
# Runs of a machine that may fault

A machine here is a step function `σ → α → Except ε σ`: it takes a label, and either moves to a
next state or stops with a fault.  The file collects what every development over such a machine
needs, once:

* `run` — the state after a list of labels, or the first fault.
* `AllSteps` — every step the run takes meets a condition on the label and the state before it.
* `AllStates` — every state the run passes through satisfies a property.
* `Yields` — what holds of an outcome, be it a state or a fault.
* **`run_invariant`**, `run_ok`, `run_yields` — the induction over runs, packaged: a property kept
  by every step that meets the condition holds at the end of a run of such steps.
* `allStates_of_invariant` — an invariant holds in every state.
* **`allStates_iff_allSteps`** — when a step keeps the property *exactly* if it meets the
  condition, the same holds of whole runs.
* **`run_fault_iff`** — when a step raises a given fault exactly if it breaks the condition, a run
  raises it exactly if some step does.
* `observed` — the machine with an observer beside it, who sees every step and changes none;
  `allStates_observed_iff` — a property an invariant ties to what the observer has noted.
* **`run_simulates`** — forward simulation, state by state along a run.
* `drain` — the loop "while something is pending, take a step", with the fuel made explicit and
  shown to be enough (`drain_done`), and a row of turns (`drain_row`); `loop` — the same, where not
  to end is a fault.
-/

namespace Library

variable {σ α ε : Type*}

/-! ## Outcomes -/

/-- If `r` is a state it satisfies `I`, and if it is a fault it satisfies `G`. -/
def Yields (I : σ → Prop) (G : ε → Prop) : Except ε σ → Prop
  | .ok s => I s
  | .error x => G x

lemma Yields.ok {I : σ → Prop} {G : ε → Prop} {r : Except ε σ} {s : σ} (h : Yields I G r)
    (hs : r = .ok s) : I s := by
  rw [hs] at h
  exact h

lemma Yields.error {I : σ → Prop} {G : ε → Prop} {r : Except ε σ} {x : ε} (h : Yields I G r)
    (hx : r = .error x) : G x := by
  rw [hx] at h
  exact h

lemma Yields.imp {I J : σ → Prop} {G : ε → Prop} {r : Except ε σ} (h : Yields I G r)
    (hI : ∀ s, I s → J s) : Yields J G r := by
  cases r with
  | error x => exact h
  | ok s => exact hI s h

lemma ok_of_map {τ : Type _} {r : Except ε σ} {f : σ → τ} {t : τ} (h : r.map f = .ok t) :
    ∃ s, r = .ok s ∧ t = f s := by
  cases r with
  | error x => cases h
  | ok s =>
      cases h
      exact ⟨s, rfl, rfl⟩

lemma Yields.map {τ : Type _} {I : σ → Prop} {J : τ → Prop} {G : ε → Prop} {r : Except ε σ}
    {f : σ → τ} (h : Yields I G r) (hf : ∀ s, I s → J (f s)) : Yields J G (r.map f) := by
  cases r with
  | error x => exact h
  | ok s => exact hf s h

/-- One computation, and another one behind it. -/
lemma Yields.bind {τ : Type _} {I : σ → Prop} {J : τ → Prop} {G : ε → Prop} {r : Except ε σ}
    {f : σ → Except ε τ} (h : Yields I G r) (hf : ∀ s, I s → Yields J G (f s)) :
    Yields J G (r >>= f) := by
  cases r with
  | error x => exact h
  | ok s => exact hf s h

lemma Yields.fmap {τ : Type _} {I : σ → Prop} {J : τ → Prop} {G : ε → Prop} {r : Except ε σ}
    {f : σ → τ} (h : Yields I G r) (hf : ∀ s, I s → J (f s)) : Yields J G (f <$> r) := by
  cases r with
  | error x => exact h
  | ok s => exact hf s h

/-! ## Runs -/

/-- The state after the labels `as`, taken in order; the first fault ends the run. -/
def run (step : σ → α → Except ε σ) : σ → List α → Except ε σ
  | s, [] => .ok s
  | s, a :: as => step s a >>= fun t => run step t as

/-- Every step of the run meets `C`, which sees the state before the step and its label. -/
def AllSteps (step : σ → α → Except ε σ) (C : σ → α → Prop) : σ → List α → Prop
  | _, [] => True
  | s, a :: as => C s a ∧ ∀ t, step s a = .ok t → AllSteps step C t as

/-- Whether a run takes only such steps can be computed. -/
instance AllSteps.decidable {step : σ → α → Except ε σ} {C : σ → α → Prop}
    [∀ s a, Decidable (C s a)] : ∀ s as, Decidable (AllSteps step C s as)
  | _, [] => .isTrue trivial
  | s, a :: as =>
      match hs : step s a with
      | .error _ => decidable_of_iff (C s a)
          ⟨fun hC => ⟨hC, fun t ht => nomatch hs.symm.trans ht⟩, And.left⟩
      | .ok t =>
          have : Decidable (AllSteps step C t as) := AllSteps.decidable t as
          decidable_of_iff (C s a ∧ AllSteps step C t as)
            ⟨fun h => ⟨h.1, fun u hu => by rw [hs] at hu; cases hu; exact h.2⟩,
              fun h => ⟨h.1, h.2 t hs⟩⟩

/-- Every state the run passes through, the first one included, satisfies `I`. -/
def AllStates (step : σ → α → Except ε σ) (I : σ → Prop) : σ → List α → Prop
  | s, [] => I s
  | s, a :: as => I s ∧ ∀ t, step s a = .ok t → AllStates step I t as

variable {step : σ → α → Except ε σ}

@[simp] lemma run_nil (s : σ) : run step s [] = .ok s := rfl

lemma run_cons (s : σ) (a : α) (as : List α) :
    run step s (a :: as) = step s a >>= fun t => run step t as := rfl

lemma run_cons_of_ok {s t : σ} {a : α} (h : step s a = .ok t) (as : List α) :
    run step s (a :: as) = run step t as := by
  rw [run_cons, h]
  rfl

lemma run_cons_ok {s u : σ} {a : α} {as : List α} (h : run step s (a :: as) = .ok u) :
    ∃ t, step s a = .ok t ∧ run step t as = .ok u := by
  rw [run_cons] at h
  cases hs : step s a with
  | error e => rw [hs] at h; cases h
  | ok t => rw [hs] at h; exact ⟨t, rfl, h⟩

lemma run_append (s : σ) (as bs : List α) :
    run step s (as ++ bs) = run step s as >>= fun t => run step t bs := by
  induction as generalizing s with
  | nil => rfl
  | cons a as ih =>
      rw [List.cons_append, run_cons, run_cons]
      cases step s a with
      | error e => rfl
      | ok t => exact ih t

lemma run_append_of_ok {s t : σ} {as : List α} (h : run step s as = .ok t) (bs : List α) :
    run step s (as ++ bs) = run step t bs := by
  rw [run_append, h]
  rfl

/-- **The induction over runs.**  A property kept by every step that meets `C` holds at the end
of every run whose steps all meet `C`. -/
theorem run_invariant {I : σ → Prop} {C : σ → α → Prop}
    (hstep : ∀ s a t, I s → C s a → step s a = .ok t → I t) :
    ∀ {s t : σ} {as : List α}, I s → AllSteps step C s as → run step s as = .ok t → I t
  | s, t, [], hs, _, h => by
      cases h
      exact hs
  | s, t, a :: as, hs, hC, h => by
      obtain ⟨u, hu, hrun⟩ := run_cons_ok h
      exact run_invariant hstep (hstep s a u hs hC.1 hu) (hC.2 u hu) hrun

/-- The same, for a property kept by every step. -/
theorem run_invariant' {I : σ → Prop} (hstep : ∀ s a t, I s → step s a = .ok t → I t)
    {s t : σ} {as : List α} (hs : I s) (h : run step s as = .ok t) : I t := by
  have hall : ∀ (as : List α) (s : σ), AllSteps step (fun _ _ => True) s as := by
    intro as
    induction as with
    | nil => exact fun _ => trivial
    | cons a as ih => exact fun _ => ⟨trivial, fun u _ => ih u⟩
  exact run_invariant (C := fun _ _ => True) (fun s a t hI _ => hstep s a t hI) hs (hall as s) h

/-- The same, for steps that moreover never fault: the run reaches its end, and the property holds
there. -/
theorem run_ok {I : σ → Prop} {C : σ → α → Prop}
    (hstep : ∀ s a, I s → C s a → ∃ t, step s a = .ok t ∧ I t) :
    ∀ {s : σ} {as : List α}, I s → AllSteps step C s as → ∃ t, run step s as = .ok t ∧ I t
  | s, [], hs, _ => ⟨s, rfl, hs⟩
  | s, a :: as, hs, hC => by
      obtain ⟨u, hu, hIu⟩ := hstep s a hs hC.1
      rw [run_cons_of_ok hu]
      exact run_ok hstep hIu (hC.2 u hu)

/-- The same, for a property that every step keeps. -/
theorem run_ok' {I : σ → Prop} (hstep : ∀ s a, I s → ∃ t, step s a = .ok t ∧ I t) :
    ∀ {s : σ} (as : List α), I s → ∃ t, run step s as = .ok t ∧ I t
  | s, [], hs => ⟨s, rfl, hs⟩
  | s, a :: as, hs => by
      obtain ⟨u, hu, hIu⟩ := hstep s a hs
      rw [run_cons_of_ok hu]
      exact run_ok' hstep as hIu

/-- The same, for steps whose faults are of a known kind. -/
theorem run_yields {I : σ → Prop} {G : ε → Prop} {C : σ → α → Prop}
    (hstep : ∀ s a, I s → C s a → Yields I G (step s a)) :
    ∀ {s : σ} {as : List α}, I s → AllSteps step C s as → Yields I G (run step s as)
  | _, [], hs, _ => hs
  | s, a :: as, hs, hC => by
      have h := hstep s a hs hC.1
      rw [run_cons]
      cases ht : step s a with
      | error x => exact h.error ht
      | ok t => exact run_yields hstep (h.ok ht) (hC.2 t ht)

/-- A condition on the labels alone is met by every step of a run over labels that meet it. -/
lemma allSteps_of_forall_mem {P : α → Prop} :
    ∀ {s : σ} {as : List α}, (∀ a ∈ as, P a) → AllSteps step (fun _ a => P a) s as
  | _, [], _ => trivial
  | _, a :: as, h =>
      ⟨h a (by simp), fun _ _ => allSteps_of_forall_mem fun b hb => h b (by simp [hb])⟩

/-- Where no step faults, a condition on the labels alone is a condition on each of them. -/
lemma allSteps_label_iff {P : α → Prop} (hok : ∀ s a, ∃ t, step s a = .ok t) :
    ∀ {s : σ} {as : List α}, AllSteps step (fun _ a => P a) s as ↔ ∀ a ∈ as, P a
  | _, [] => ⟨fun _ _ h => absurd h (List.not_mem_nil), fun _ => trivial⟩
  | s, a :: as => by
      obtain ⟨t, ht⟩ := hok s a
      rw [List.forall_mem_cons]
      constructor
      · rintro ⟨ha, hrest⟩
        exact ⟨ha, (allSteps_label_iff hok).mp (hrest t ht)⟩
      · rintro ⟨ha, hrest⟩
        exact ⟨ha, fun _ _ => (allSteps_label_iff hok).mpr hrest⟩

/-- A run, step by step. -/
lemma AllSteps.cons {C : σ → α → Prop} {s t : σ} {a : α} {as : List α} (hs : step s a = .ok t)
    (ha : C s a) (h : AllSteps step C t as) : AllSteps step C s (a :: as) := by
  refine ⟨ha, fun u hu => ?_⟩
  rw [hs] at hu
  cases hu
  exact h

lemma allSteps_mono {C D : σ → α → Prop} (h : ∀ s a, C s a → D s a) :
    ∀ {s : σ} {as : List α}, AllSteps step C s as → AllSteps step D s as
  | _, [], _ => trivial
  | s, a :: _, hC => ⟨h s a hC.1, fun t ht => allSteps_mono h (hC.2 t ht)⟩

lemma AllSteps.and {C D : σ → α → Prop} :
    ∀ {s : σ} {as : List α}, AllSteps step C s as → AllSteps step D s as →
      AllSteps step (fun s a => C s a ∧ D s a) s as
  | _, [], _, _ => trivial
  | _, _ :: _, hC, hD =>
      ⟨⟨hC.1, hD.1⟩, fun t ht => AllSteps.and (hC.2 t ht) (hD.2 t ht)⟩

/-- Two conditions that agree wherever an invariant holds, which the steps meeting them keep. -/
lemma allSteps_congr_of {I : σ → Prop} {C D : σ → α → Prop} (h : ∀ s a, I s → (C s a ↔ D s a))
    (hstep : ∀ s a t, I s → D s a → step s a = .ok t → I t) :
    ∀ {s : σ} {as : List α}, I s → (AllSteps step C s as ↔ AllSteps step D s as)
  | _, [], _ => Iff.rfl
  | s, a :: _, hs => by
      rw [AllSteps, AllSteps, h s a hs]
      exact and_congr_right fun hD =>
        forall₂_congr fun t ht => allSteps_congr_of h hstep (hstep s a t hs hD ht)

/-- The same, for an invariant that every step keeps. -/
lemma allSteps_congr {I : σ → Prop} {C D : σ → α → Prop} (h : ∀ s a, I s → (C s a ↔ D s a))
    (hstep : ∀ s a t, I s → step s a = .ok t → I t) {s : σ} {as : List α} (hs : I s) :
    AllSteps step C s as ↔ AllSteps step D s as :=
  allSteps_congr_of h (fun s a t hI _ => hstep s a t hI) hs

/-- With an invariant that the steps meeting `C` keep, a run of such steps meets at each of them
whatever follows from the two. -/
lemma allSteps_of_invariant {I : σ → Prop} {C D : σ → α → Prop}
    (h : ∀ s a, I s → C s a → D s a) (hstep : ∀ s a t, I s → C s a → step s a = .ok t → I t) :
    ∀ {s : σ} {as : List α}, I s → AllSteps step C s as → AllSteps step D s as
  | _, [], _, _ => trivial
  | s, a :: _, hs, hC =>
      ⟨h s a hs hC.1, fun t ht =>
        allSteps_of_invariant h hstep (hstep s a t hs hC.1 ht) (hC.2 t ht)⟩

/-! ## Conditions that are exact -/

lemma AllStates.head {P : σ → Prop} {s : σ} {as : List α} (h : AllStates step P s as) : P s := by
  cases as with
  | nil => exact h
  | cons _ _ => exact h.1

/-- A property that implies another and is kept by every step makes the other hold in every state of
every run. -/
theorem allStates_of_invariant {P I : σ → Prop} (hP : ∀ s, I s → P s)
    (hstep : ∀ s a t, I s → step s a = .ok t → I t) :
    ∀ {s : σ} (as : List α), I s → AllStates step P s as
  | s, [], hs => hP s hs
  | s, a :: as, hs =>
      ⟨hP s hs, fun t ht => allStates_of_invariant hP hstep as (hstep s a t hs ht)⟩

/-- The same, for a property kept by the steps that meet `C`. -/
theorem allStates_of_allSteps {P I : σ → Prop} {C : σ → α → Prop} (hP : ∀ s, I s → P s)
    (hstep : ∀ s a t, I s → C s a → step s a = .ok t → I t) :
    ∀ {s : σ} {as : List α}, I s → AllSteps step C s as → AllStates step P s as
  | s, [], hs, _ => hP s hs
  | s, a :: _, hs, hC =>
      ⟨hP s hs, fun t ht =>
        allStates_of_allSteps hP hstep (hstep s a t hs hC.1 ht) (hC.2 t ht)⟩

/-- **An exact step condition is exact for runs.**  Let `I`, which implies `P`, be kept by the steps
that meet `C`, and let a step from `I` that breaks `C` lead to a state without `P`.  Then a run
passes only through states with `P` precisely when all its steps meet `C`.  Here for runs whose
steps all meet `L`. -/
theorem allStates_iff_allSteps_of {P I : σ → Prop} {C L : σ → α → Prop} (hP : ∀ s, I s → P s)
    (hkeep : ∀ s a t, L s a → I s → C s a → step s a = .ok t → I t)
    (hbreak : ∀ s a, L s a → I s → ¬ C s a → ∃ t, step s a = .ok t ∧ ¬ P t) {s : σ} {as : List α}
    (hL : AllSteps step L s as) (hs : I s) : AllStates step P s as ↔ AllSteps step C s as := by
  constructor
  · intro h
    induction as generalizing s with
    | nil => trivial
    | cons a as ih =>
        have hC : C s a := by
          by_contra hn
          obtain ⟨t, ht, hnot⟩ := hbreak s a hL.1 hs hn
          exact hnot (h.2 t ht).head
        exact ⟨hC, fun t ht => ih (hL.2 t ht) (hkeep s a t hL.1 hs hC ht) (h.2 t ht)⟩
  · intro hC
    exact allStates_of_allSteps hP (fun s a t hI h ht => hkeep s a t h.1 hI h.2 ht) hs (hL.and hC)

/-- The same, for all runs. -/
theorem allStates_iff_allSteps {P I : σ → Prop} {C : σ → α → Prop} (hP : ∀ s, I s → P s)
    (hkeep : ∀ s a t, I s → C s a → step s a = .ok t → I t)
    (hbreak : ∀ s a, I s → ¬ C s a → ∃ t, step s a = .ok t ∧ ¬ P t) {s : σ} {as : List α}
    (hs : I s) : AllStates step P s as ↔ AllSteps step C s as :=
  allStates_iff_allSteps_of (L := fun _ _ => True) hP (fun s a t _ => hkeep s a t)
    (fun s a _ => hbreak s a)
    (allSteps_of_forall_mem (P := fun _ => True) fun _ _ => trivial) hs

/-- **A fault of a run is a fault of one of its steps.**  If a step raises a `bad` fault precisely
when it breaks `C`, a run raises one precisely when some step of it breaks `C`. -/
theorem run_fault_iff {C : σ → α → Prop} (bad : ε → Prop)
    (hstep : ∀ s a, C s a ↔ ∀ x, step s a = .error x → ¬ bad x) :
    ∀ {s : σ} {as : List α},
      (∀ x, run step s as = .error x → ¬ bad x) ↔ AllSteps step C s as
  | s, [] => ⟨fun _ => trivial, fun _ x h => nomatch h⟩
  | s, a :: as => by
      cases hs : step s a with
      | error y =>
          have hr : run step s (a :: as) = .error y := by rw [run_cons, hs]; rfl
          rw [hr]
          refine ⟨fun h => ⟨(hstep s a).mpr (by rw [hs]; exact h), fun t ht => ?_⟩, fun h => ?_⟩
          · rw [hs] at ht
            cases ht
          · have := (hstep s a).mp h.1
            rwa [hs] at this
      | ok t =>
          rw [run_cons_of_ok hs, run_fault_iff bad hstep]
          refine ⟨fun h => ⟨(hstep s a).mpr (by rw [hs]; exact fun x hx => nomatch hx),
            fun u hu => ?_⟩, fun h => h.2 t hs⟩
          rw [hs] at hu
          cases hu
          exact h

/-! ## Observed runs -/

/-- The machine beside an observer, who notes every step taken. -/
def observed {β : Type*} (step : σ → α → Except ε σ) (note : σ → α → β → β) (p : σ × β) (a : α) :
    Except ε (σ × β) :=
  (step p.1 a).map fun t => (t, note p.1 a p.2)

lemma observed_ok {β : Type*} {note : σ → α → β → β} {p q : σ × β} {a : α} :
    observed step note p a = .ok q ↔ step p.1 a = .ok q.1 ∧ q.2 = note p.1 a p.2 := by
  rw [observed]
  cases hs : step p.1 a with
  | error e => exact ⟨nofun, fun h => nomatch h.1⟩
  | ok t =>
      refine ⟨fun h => ?_, fun ⟨h, hn⟩ => ?_⟩
      · cases h
        exact ⟨rfl, rfl⟩
      · cases h
        rw [← hn]
        rfl

/-- A condition on the machine alone does not need the observer. -/
lemma allSteps_observed {β : Type*} {note : σ → α → β → β} {C : σ → α → Prop} :
    ∀ {p : σ × β} {as : List α},
      AllSteps (observed step note) (fun p => C p.1) p as ↔ AllSteps step C p.1 as
  | _, [] => Iff.rfl
  | p, a :: as => by
      refine and_congr_right fun _ => ⟨fun h t ht => ?_, fun h q hq => ?_⟩
      · exact allSteps_observed.mp (h (t, note p.1 a p.2) (observed_ok.mpr ⟨ht, rfl⟩))
      · exact allSteps_observed.mpr (h q.1 (observed_ok.mp hq).1)

/-- A property of the machine that an invariant derives from what the observer has noted. -/
theorem allStates_of_observed {β : Type*} {note : σ → α → β → β} {I Q : σ × β → Prop}
    {P : σ → Prop} (hQP : ∀ p, I p → Q p → P p.1)
    (hstep : ∀ p a q, I p → observed step note p a = .ok q → I q) :
    ∀ {p : σ × β} {as : List α}, I p →
      AllStates (observed step note) Q p as → AllStates step P p.1 as
  | p, [], hp, h => hQP p hp h
  | p, a :: as, hp, h => by
      refine ⟨hQP p hp h.1, fun t ht => ?_⟩
      have hq : observed step note p a = .ok (t, note p.1 a p.2) := observed_ok.mpr ⟨ht, rfl⟩
      exact allStates_of_observed hQP hstep (hstep p a _ hp hq) (h.2 _ hq)

/-- A property of the machine that an invariant ties to what the observer has noted. -/
theorem allStates_observed_iff {β : Type*} {note : σ → α → β → β} {I Q : σ × β → Prop}
    {P : σ → Prop} (hPQ : ∀ p, I p → (P p.1 ↔ Q p))
    (hstep : ∀ p a q, I p → observed step note p a = .ok q → I q) :
    ∀ {p : σ × β} {as : List α}, I p →
      (AllStates step P p.1 as ↔ AllStates (observed step note) Q p as)
  | p, [], hp => hPQ p hp
  | p, a :: as, hp => by
      refine ⟨fun h => ⟨(hPQ p hp).mp h.1, fun q hq => ?_⟩,
        allStates_of_observed (fun p hp => (hPQ p hp).mpr) hstep hp⟩
      have hrest : AllStates step P q.1 as ↔ AllStates (observed step note) Q q as :=
        allStates_observed_iff hPQ hstep (hstep p a q hp hq)
      exact hrest.mp (h.2 q.1 (observed_ok.mp hq).1)

/-! ## Simulation -/

/-- The run from `s` over `as`, which does not fault, is followed state by state by a sequence of
abstract states from `b` on, and `Q` holds between the two ends of every step. -/
def Simulated {β : Type*} (step : σ → α → Except ε σ) (Q : σ → σ → β → β → Prop)
    (s : σ) (b : β) (as : List α) : Prop :=
  ∃ (ss : ℕ → σ) (bs : ℕ → β), ss 0 = s ∧ bs 0 = b ∧
    ∀ k (hk : k < as.length), step (ss k) as[k] = .ok (ss (k + 1)) ∧
      Q (ss k) (ss (k + 1)) (bs k) (bs (k + 1))

lemma Simulated.nil {β : Type*} {Q : σ → σ → β → β → Prop} (s : σ) (b : β) :
    Simulated step Q s b [] :=
  ⟨fun _ => s, fun _ => b, rfl, rfl, fun _ hk => absurd hk (by simp)⟩

lemma Simulated.cons {β : Type*} {Q : σ → σ → β → β → Prop} {s t : σ} {b b' : β} {a : α}
    {as : List α} (hs : step s a = .ok t) (hQ : Q s t b b') (h : Simulated step Q t b' as) :
    Simulated step Q s b (a :: as) := by
  obtain ⟨ss, bs, hs0, hb0, hrest⟩ := h
  refine ⟨fun k => k.casesOn s ss, fun k => k.casesOn b bs, rfl, rfl, ?_⟩
  intro k hk
  cases k with
  | zero =>
      dsimp only
      rw [hs0, hb0]
      exact ⟨hs, hQ⟩
  | succ k => exact hrest k (by simpa using hk)

/-- **Forward simulation.**  If every step from a state related to `b` leads to a state related to
some `b'`, with `Q` between the two ends, then every run is followed. -/
theorem run_simulates {β : Type*} {R : σ → β → Prop} {Q : σ → σ → β → β → Prop}
    (hstep : ∀ s a b, R s b → ∃ t b', step s a = .ok t ∧ R t b' ∧ Q s t b b') :
    ∀ {s : σ} {b : β} (as : List α), R s b → Simulated step Q s b as
  | s, b, [], _ => .nil s b
  | s, b, a :: as, h => by
      obtain ⟨t, b', ht, hR, hQ⟩ := hstep s a b h
      exact .cons ht hQ (run_simulates hstep as hR)

/-! ## Draining a queue -/

/-- While something is `pending`, take a step; at most `n` of them. -/
def drain (pending : σ → Bool) (next : σ → Except ε σ) : ℕ → σ → Except ε σ
  | 0, s => .ok s
  | n + 1, s => if pending s then next s >>= drain pending next n else .ok s

variable {pending : σ → Bool} {next : σ → Except ε σ}

lemma drain_of_not_pending {s : σ} (h : pending s = false) (n : ℕ) :
    drain pending next n s = .ok s := by
  cases n with
  | zero => rfl
  | succ n => simp [drain, h]

lemma drain_succ_of_pending {s t : σ} (h : pending s = true) (ht : next s = .ok t) (n : ℕ) :
    drain pending next (n + 1) s = drain pending next n t := by
  simp only [drain, h, if_true, ht]
  rfl

lemma drain_succ_ok {s u : σ} {n : ℕ} (h : pending s = true)
    (hu : drain pending next (n + 1) s = .ok u) :
    ∃ t, next s = .ok t ∧ drain pending next n t = .ok u := by
  simp only [drain, h, if_true] at hu
  cases hs : next s with
  | error e => rw [hs] at hu; cases hu
  | ok t => rw [hs] at hu; exact ⟨t, rfl, hu⟩

/-- **The fuel is enough.**  If every step lowers a weight, draining with that much fuel leaves
nothing pending. -/
theorem drain_done (weight : σ → ℕ)
    (hw : ∀ s t, pending s = true → next s = .ok t → weight t < weight s)
    (h0 : ∀ s, weight s = 0 → pending s = false) :
    ∀ {n : ℕ} {s t : σ}, weight s ≤ n → drain pending next n s = .ok t → pending t = false
  | 0, s, t, hn, h => by
      cases h
      exact h0 s (Nat.le_zero.mp hn)
  | n + 1, s, t, hn, h => by
      cases hp : pending s with
      | false =>
          rw [drain_of_not_pending hp] at h
          cases h
          exact hp
      | true =>
          obtain ⟨u, hu, hd⟩ := drain_succ_ok hp h
          have := hw s u hp hu
          exact drain_done weight hw h0 (by omega) hd

/-- **More fuel makes no difference.** -/
theorem drain_fuel (weight : σ → ℕ)
    (hw : ∀ s t, pending s = true → next s = .ok t → weight t < weight s)
    (h0 : ∀ s, weight s = 0 → pending s = false) :
    ∀ {n m : ℕ} {s : σ}, weight s ≤ n → weight s ≤ m →
      drain pending next n s = drain pending next m s
  | 0, m, s, hn, _ => by
      rw [drain_of_not_pending (h0 s (Nat.le_zero.mp hn)),
        drain_of_not_pending (h0 s (Nat.le_zero.mp hn))]
  | n + 1, 0, s, _, hm => by
      rw [drain_of_not_pending (h0 s (Nat.le_zero.mp hm)),
        drain_of_not_pending (h0 s (Nat.le_zero.mp hm))]
  | n + 1, m + 1, s, hn, hm => by
      cases hp : pending s with
      | false => rw [drain_of_not_pending hp, drain_of_not_pending hp]
      | true =>
          simp only [drain, hp, if_true]
          cases ht : next s with
          | error e => rfl
          | ok t =>
              have := hw s t hp ht
              exact drain_fuel weight hw h0 (by omega) (by omega)

/-- The loop ends with nothing pending, and with everything its steps keep; none of them faults. -/
theorem drain_ok {I : σ → Prop} {weight : σ → ℕ}
    (hstep : ∀ s, I s → pending s = true → ∃ t, next s = .ok t ∧ I t ∧ weight t < weight s)
    (h0 : ∀ s, weight s = 0 → pending s = false) :
    ∀ {n : ℕ} {s : σ}, I s → weight s ≤ n →
      ∃ t, drain pending next n s = .ok t ∧ I t ∧ pending t = false
  | 0, s, hs, hn => ⟨s, rfl, hs, h0 s (Nat.le_zero.mp hn)⟩
  | n + 1, s, hs, hn => by
      cases hp : pending s with
      | false => exact ⟨s, drain_of_not_pending hp _, hs, hp⟩
      | true =>
          obtain ⟨u, hu, hIu, hw⟩ := hstep s hs hp
          rw [drain_succ_of_pending hp hu]
          exact drain_ok hstep h0 hIu (by omega)

/-- **A loop is a row of its turns**, also where they are steps of a larger machine. -/
theorem drain_row {τ : Type*} (step : τ → α → Except ε τ) (a : α) (lift : σ → τ) {I : σ → Prop}
    (hstep : ∀ s, I s → step (lift s) a = (next s).map lift)
    (hI : ∀ s t, I s → next s = .ok t → I t) :
    ∀ {n : ℕ} {s t : σ}, I s → drain pending next n s = .ok t →
      ∃ k, run step (lift s) (List.replicate k a) = .ok (lift t)
  | 0, s, t, _, h => by
      cases h
      exact ⟨0, rfl⟩
  | n + 1, s, t, hs, h => by
      cases hp : pending s with
      | false =>
          rw [drain_of_not_pending hp] at h
          cases h
          exact ⟨0, rfl⟩
      | true =>
          obtain ⟨u, hu, hd⟩ := drain_succ_ok hp h
          obtain ⟨k, hk⟩ := drain_row step a lift hstep hI (hI s u hs hu) hd
          refine ⟨k + 1, ?_⟩
          rw [List.replicate_succ, run_cons_of_ok (t := lift u) (by rw [hstep s hs, hu]; rfl), hk]

/-- A loop that takes an element out of a queue at each turn, and queues none, ends with the queue
empty once it has as many turns as elements. -/
theorem drain_queue {β : Type*} (queue : σ → List β)
    (h : ∀ s t, queue s ≠ [] → next s = .ok t → queue t = (queue s).tail) {s t : σ}
    (hd : drain (fun s => !(queue s).isEmpty) next (queue s).length s = .ok t) : queue t = [] := by
  have hdone := drain_done (fun s => (queue s).length) (fun s t hp ht => by
      have hne : queue s ≠ [] := by simpa using hp
      have hpos := List.length_pos_iff.mpr hne
      rw [h s t hne ht, List.length_tail]
      omega)
    (fun s h0 => by simp [List.length_eq_zero_iff.mp h0]) le_rfl hd
  simpa using hdone

/-- A loop that need not end: the fault `x` if something is still pending after `n` steps. -/
def loop (pending : σ → Bool) (next : σ → Except ε σ) (x : ε) : ℕ → σ → Except ε σ
  | 0, s => if pending s then .error x else .ok s
  | n + 1, s => if pending s then next s >>= loop pending next x n else .ok s

lemma loop_done {s : σ} (h : pending s = false) (x : ε) (n : ℕ) :
    loop pending next x n s = .ok s := by
  cases n with
  | zero => rw [loop, h, if_neg (by decide)]
  | succ n => rw [loop, h, if_neg (by decide)]

lemma loop_turn {s t : σ} (h : pending s = true) (ht : next s = .ok t) (x : ε) (n : ℕ) :
    loop pending next x (n + 1) s = loop pending next x n t := by
  rw [loop, if_pos h, ht]
  rfl

/-- What every turn of the loop yields, the loop yields. -/
theorem drain_yields {I : σ → Prop} {G : ε → Prop}
    (hstep : ∀ s, I s → pending s = true → Yields I G (next s)) :
    ∀ {n : ℕ} {s : σ}, I s → Yields I G (drain pending next n s)
  | 0, _, hs => hs
  | n + 1, s, hs => by
      cases hp : pending s with
      | false =>
          rw [drain_of_not_pending hp]
          exact hs
      | true =>
          have h := hstep s hs hp
          simp only [drain, hp, if_true]
          cases ht : next s with
          | error x => exact h.error ht
          | ok t => exact drain_yields hstep (h.ok ht)

end Library
