/-
Machines that answer alike. Where a relation between the states of two machines with outputs is kept by
every step, with the same output or the same halt on both sides, their runs give the same outputs, halt at
the same event, and end in related states.
-/
import NandRig.Lib.Machine

namespace Machine

variable {σ τ ε χ ω : Type*}

/-! ## Traces -/

/-- The outputs of a run up to its end or its first halt, and how it ends. -/
def trace (react : σ → ε → Except χ (ω × σ)) : (s : σ) → List ε → List ω × Except χ σ
  | s, [] => ([], .ok s)
  | s, e :: es =>
    match react s e with
    | .error x => ([], .error x)
    | .ok y => (y.1 :: (trace react y.2 es).1, (trace react y.2 es).2)

variable {react : σ → ε → Except χ (ω × σ)} {react' : τ → ε → Except χ (ω × τ)}

theorem trace_cons_error {s : σ} {e : ε} {x : χ} (h : react s e = .error x) (es : List ε) :
    trace react s (e :: es) = ([], .error x) := by
  rw [trace, h]

theorem trace_cons_ok {s s' : σ} {e : ε} {o : ω} (h : react s e = .ok (o, s')) (es : List ε) :
    trace react s (e :: es) = (o :: (trace react s' es).1, (trace react s' es).2) := by
  rw [trace, h]

/-- The end of a trace is the run without outputs. -/
theorem trace_end : ∀ (es : List ε) (s : σ), (trace react s es).2 = run (silent react) s es
  | [], _ => rfl
  | e :: es, s => by
    rw [run_cons]
    unfold silent
    cases h : react s e with
    | error x =>
      rw [trace_cons_error h]
      rfl
    | ok y =>
      rw [trace_cons_ok h]
      exact trace_end es y.2

/-! ## Simulation -/

/-- Two steps with the same halt, or with the same output to related states. -/
inductive SameStep (R : σ → τ → Prop) : Except χ (ω × σ) → Except χ (ω × τ) → Prop
  | halts (x : χ) : SameStep R (.error x) (.error x)
  | goes (o : ω) {s : σ} {t : τ} (h : R s t) : SameStep R (.ok (o, s)) (.ok (o, t))

/-- Two runs that end with the same halt, or in related states. -/
inductive SameEnd (R : σ → τ → Prop) : Except χ σ → Except χ τ → Prop
  | halts (x : χ) : SameEnd R (.error x) (.error x)
  | goes {s : σ} {t : τ} (h : R s t) : SameEnd R (.ok s) (.ok t)

/-- What every step keeps makes the runs the same to look at. -/
theorem trace_same {R : σ → τ → Prop} (hstep : ∀ s t e, R s t → SameStep R (react s e) (react' t e)) :
    ∀ (es : List ε) (s : σ) (t : τ), R s t →
      (trace react s es).1 = (trace react' t es).1 ∧ SameEnd R (trace react s es).2 (trace react' t es).2
  | [], _, _, h => ⟨rfl, .goes h⟩
  | e :: es, s, t, h => by
    have he := hstep s t e h
    generalize hs : react s e = x at he
    generalize ht : react' t e = y at he
    cases he with
    | halts x =>
      rw [trace_cons_error hs, trace_cons_error ht]
      exact ⟨rfl, .halts x⟩
    | goes o h' =>
      obtain ⟨houtputs, hend⟩ := trace_same hstep es _ _ h'
      rw [trace_cons_ok hs, trace_cons_ok ht]
      exact ⟨congrArg (o :: ·) houtputs, hend⟩

end Machine
