import Sm7225.Lib.Prog

/-!
# Runs of a system of requests

A system is a program {lit}`exec` for each request.  A run executes a list of
requests in order and stops at the first abort.  The module has the two
induction rules every safety proof uses: an invariant that each step keeps is
kept by the run, and so is one that each step keeps under a condition on the
state before it and its request.
-/

namespace Sm7225
namespace Lib

instance decidableElim {α : Type} (o : Option α) (P : α -> Prop)
    [forall a, Decidable (P a)] : Decidable (o.elim True P) :=
  match o with
  | none => isTrue trivial
  | some a => inferInstanceAs (Decidable (P a))

variable {ε σ ι ρ : Type}

/-- Execute the requests in order and collect the replies. -/
def run (exec : ι -> EStateM ε σ ρ) : List ι -> EStateM ε σ (List ρ)
  | [] => pure []
  | i :: is => do
      let r ← exec i
      let rs ← run exec is
      pure (r :: rs)

/-- Every request of the run meets {lit}`P` in the state it is issued in. -/
def Along (exec : ι -> EStateM ε σ ρ) (P : σ -> ι -> Prop) :
    List ι -> σ -> Prop
  | [], _ => True
  | i :: is, s =>
      P s i ∧
        match exec i s with
        | .ok _ t => Along exec P is t
        | .error _ _ => True

/-- Every request of the run that returns is in the relation {lit}`R` with the
states around it and its reply. -/
def EachReply (exec : ι -> EStateM ε σ ρ) (R : σ -> ι -> ρ -> σ -> Prop) :
    List ι -> σ -> Prop
  | [], _ => True
  | i :: is, s =>
      match exec i s with
      | .ok r t => R s i r t ∧ EachReply exec R is t
      | .error _ _ => True

section Rules

variable {exec : ι -> EStateM ε σ ρ} {P P' : σ -> ι -> Prop}

instance Along.decidable [forall s i, Decidable (P s i)] :
    forall (is : List ι) (s : σ), Decidable (Along exec P is s)
  | [], _ => isTrue trivial
  | i :: is, s =>
      match h : exec i s with
      | .ok _ t =>
          have := Along.decidable is t
          decidable_of_iff (P s i ∧ Along exec P is t) (by simp [Along, h])
      | .error _ _ => decidable_of_iff (P s i) (by simp [Along, h])

theorem Along.mono {is : List ι} {s : σ} (h : Along exec P is s)
    (hP : forall s i, P s i -> P' s i) : Along exec P' is s := by
  induction is generalizing s with
  | nil => trivial
  | cons i is ih =>
      refine ⟨hP s i h.1, ?_⟩
      have htail := h.2
      cases hi : exec i s with
      | ok r t =>
          rw [hi] at htail
          exact ih htail
      | error e t => trivial

theorem Along.and {is : List ι} {s : σ} (h : Along exec P is s)
    (h' : Along exec P' is s) :
    Along exec (fun s i => P s i ∧ P' s i) is s := by
  induction is generalizing s with
  | nil => trivial
  | cons i is ih =>
      refine ⟨⟨h.1, h'.1⟩, ?_⟩
      have htail := h.2
      have htail' := h'.2
      cases hi : exec i s with
      | ok r t =>
          rw [hi] at htail htail'
          exact ih htail htail'
      | error e t => trivial

theorem run_sat_since {I : σ -> Prop} {R : List ι -> σ -> σ -> Prop}
    {E : ε -> σ -> Prop} (hnil : forall s, I s -> R [] s s)
    (hstep : forall s i, I s -> P s i ->
      Sat (exec i) (fun _ t => I t ∧ forall is u, R is t u -> R (i :: is) s u) E s) :
    forall (is : List ι) (s : σ), I s -> Along exec P is s ->
      Sat (run exec is) (fun _ t => I t ∧ R is s t) E s := by
  intro is
  induction is with
  | nil =>
      intro s hs _
      exact ⟨hs, hnil s hs⟩
  | cons i is ih =>
      intro s hs halong
      have hi := hstep s i hs halong.1
      have htail := halong.2
      rw [run, sat_bind]
      cases hexec : exec i s with
      | ok r t =>
          rw [hexec] at htail
          rw [sat_of_ok hexec] at hi ⊢
          rw [sat_bind]
          apply (ih t hi.1 htail).imp
          intro _ u hu
          exact ⟨hu.1, hi.2 is u hu.2⟩
      | error e t =>
          rw [sat_of_error hexec] at hi ⊢
          exact hi

theorem run_sat {I : σ -> Prop} {E : ε -> σ -> Prop}
    (hstep : forall s i, I s -> P s i ->
      Sat (exec i) (fun _ t => I t) E s)
    (is : List ι) (s : σ) (hs : I s) (halong : Along exec P is s) :
    Sat (run exec is) (fun _ t => I t) E s := by
  refine (run_sat_since (R := fun _ _ _ => True) (fun _ _ => trivial) ?_ is s hs
    halong).imp fun _ _ ht => ht.1
  intro s i hs hi
  exact (hstep s i hs hi).imp fun _ _ ht => ⟨ht, fun _ _ h => h⟩

theorem eachReply_of_kept {I : σ -> Prop} {R : σ -> ι -> ρ -> σ -> Prop}
    {E : ε -> σ -> Prop}
    (hstep : forall s i, I s -> P s i ->
      Sat (exec i) (fun r t => I t ∧ R s i r t) E s) :
    forall (is : List ι) (s : σ), I s -> Along exec P is s ->
      EachReply exec R is s := by
  intro is
  induction is with
  | nil =>
      intro s _ _
      trivial
  | cons i is ih =>
      intro s hs halong
      have hi := hstep s i hs halong.1
      have htail := halong.2
      rw [EachReply]
      cases hexec : exec i s with
      | ok r t =>
          rw [hexec] at htail
          rw [sat_of_ok hexec] at hi
          exact ⟨hi.2, ih t hi.1 htail⟩
      | error e t => trivial

theorem sat_run_append {Q : σ -> Prop} {E : ε -> σ -> Prop} (is is' : List ι)
    (s : σ) :
    Sat (run exec (is ++ is')) (fun _ t => Q t) E s <->
      Sat (run exec is) (fun _ t => Sat (run exec is') (fun _ u => Q u) E t) E
        s := by
  induction is generalizing s with
  | nil => rfl
  | cons i is ih =>
      simp only [List.cons_append, run, sat_bind, sat_pure]
      cases hi : exec i s with
      | ok r t =>
          rw [sat_of_ok hi, sat_of_ok hi]
          exact ih t
      | error e t => rw [sat_of_error hi, sat_of_error hi]

/-!
# Runs in two parts
-/

theorem run_cons_ok {i : ι} {is : List ι} {s u : σ} {rs : List ρ} :
    run exec (i :: is) s = .ok rs u <-> exists r t rs', exec i s = .ok r t ∧
      run exec is t = .ok rs' u ∧ rs = r :: rs' := by
  show EStateM.bind (exec i) _ s = _ <-> _
  unfold EStateM.bind
  cases hi : exec i s with
  | ok r t =>
      show EStateM.bind (run exec is) _ t = _ <-> _
      unfold EStateM.bind
      cases his : run exec is t with
      | ok rs' v =>
          constructor
          · intro h
            cases h
            exact ⟨r, t, rs', rfl, his, rfl⟩
          · intro h
            rcases h with ⟨_, _, _, hr, hrest, heq⟩
            cases hr
            rw [his] at hrest
            cases hrest
            rw [heq]
            rfl
      | error e v =>
          constructor
          · intro h
            cases h
          · intro h
            rcases h with ⟨_, _, _, hr, hrest, _⟩
            cases hr
            rw [his] at hrest
            cases hrest
  | error e t =>
      constructor
      · intro h
        cases h
      · intro h
        rcases h with ⟨_, _, _, hr, _⟩
        cases hr

theorem run_append_ok {is is' : List ι} {s u : σ} {rs : List ρ}
    (h : run exec (is ++ is') s = .ok rs u) :
    exists rs₁ t rs₂, run exec is s = .ok rs₁ t ∧ run exec is' t = .ok rs₂ u := by
  induction is generalizing s rs with
  | nil => exact ⟨[], s, rs, rfl, h⟩
  | cons i is ih =>
      rcases run_cons_ok.mp h with ⟨r, t, rs', hi, hrest, _⟩
      rcases ih hrest with ⟨rs₁, v, rs₂, hfirst, hsecond⟩
      exact ⟨r :: rs₁, v, rs₂, run_cons_ok.mpr ⟨r, t, rs₁, hi, hfirst, rfl⟩, hsecond⟩

theorem run_append_of_ok {is is' : List ι} {s t u : σ} {rs₁ rs₂ : List ρ}
    (h : run exec is s = .ok rs₁ t) (h' : run exec is' t = .ok rs₂ u) :
    run exec (is ++ is') s = .ok (rs₁ ++ rs₂) u := by
  induction is generalizing s rs₁ with
  | nil =>
      cases h
      exact h'
  | cons i is ih =>
      rcases run_cons_ok.mp h with ⟨r, v, rs', hi, hrest, heq⟩
      rw [heq]
      exact run_cons_ok.mpr ⟨r, v, rs' ++ rs₂, hi, ih hrest, rfl⟩

theorem along_iff_forall (is : List ι) (s : σ) :
    Along exec P is s <-> forall before i later rs t, is = before ++ i :: later ->
      run exec before s = .ok rs t -> P t i := by
  induction is generalizing s with
  | nil =>
      constructor
      · intro _ before i later rs t hsplit
        cases before with
        | nil => cases hsplit
        | cons _ _ => cases hsplit
      · intro _
        trivial
  | cons i is ih =>
      constructor
      · intro h before i' later rs t hsplit hrun
        cases before with
        | nil =>
            injection hsplit with hi _
            cases hrun
            rw [← hi]
            exact h.1
        | cons i₁ before =>
            injection hsplit with hi hrest
            rw [← hi] at hrun
            rcases run_cons_ok.mp hrun with ⟨r, u, rs', hexec, hafter, _⟩
            have htail := h.2
            rw [hexec] at htail
            exact (ih u).mp htail before i' later rs' t hrest hafter
      · intro h
        refine ⟨h [] i is [] s rfl rfl, ?_⟩
        cases hexec : exec i s with
        | ok r u =>
            apply (ih u).mpr
            intro before i' later rs t hsplit hrun
            apply h (i :: before) i' later (r :: rs) t
            · rw [hsplit]
              rfl
            · exact run_cons_ok.mpr ⟨r, u, rs, hexec, hrun, rfl⟩
        | error e u => trivial

theorem Along.of_append {is is' : List ι} {s : σ} (h : Along exec P (is ++ is') s) :
    Along exec P is s := by
  rw [along_iff_forall] at h ⊢
  intro before i later rs t hsplit hrun
  apply h before i (later ++ is') rs t _ hrun
  rw [hsplit, List.append_assoc]
  rfl

theorem Along.next {Q : σ -> Prop} {i : ι} {is : List ι} {s : σ}
    (h : Along exec P (i :: is) s)
    (hi : Sat (exec i) (fun _ t => Q t) (fun _ _ => False) s) :
    exists t, Q t ∧ Along exec P is t := by
  rcases hi.returns with ⟨r, t, hexec, ht⟩
  have htail := h.2
  rw [hexec] at htail
  exact ⟨t, ht, htail⟩

theorem Along.rest {is is' : List ι} {s t : σ} {rs : List ρ}
    (h : Along exec P (is ++ is') s) (hrun : run exec is s = .ok rs t) :
    Along exec P is' t := by
  induction is generalizing s rs with
  | nil =>
      cases hrun
      exact h
  | cons i is ih =>
      rcases run_cons_ok.mp hrun with ⟨r, u, rs', hexec, hrest, _⟩
      have htail := h.2
      rw [hexec] at htail
      exact ih htail hrest

/-!
# Conditions that are kept
-/

theorem along_true (is : List ι) (s : σ) :
    Along exec (fun _ _ => True) is s := by
  induction is generalizing s with
  | nil => trivial
  | cons i is ih =>
      refine ⟨trivial, ?_⟩
      cases exec i s with
      | ok r t => exact ih t
      | error e t => trivial

theorem run_sat_always {I : σ -> Prop} {E : ε -> σ -> Prop}
    (hstep : forall s i, I s -> Sat (exec i) (fun _ t => I t) E s)
    (is : List ι) (s : σ) (hs : I s) :
    Sat (run exec is) (fun _ t => I t) E s :=
  run_sat (P := fun _ _ => True) (fun s i hinv _ => hstep s i hinv) is s hs
    (along_true is s)

theorem Along.of_kept {I : σ -> Prop} {is : List ι} {s : σ} (h : Along exec P is s)
    (hcondition : forall s i, I s -> P s i -> P' s i)
    (hkept : forall s i, I s -> P s i -> Sat (exec i) (fun _ t => I t) (fun _ _ => True) s)
    (hs : I s) : Along exec P' is s := by
  induction is generalizing s with
  | nil => trivial
  | cons i is ih =>
      have hnext := hkept s i hs h.1
      refine ⟨hcondition s i hs h.1, ?_⟩
      have htail := h.2
      cases hexec : exec i s with
      | ok r t =>
          rw [hexec] at htail
          rw [sat_of_ok hexec] at hnext
          exact ih htail hnext
      | error e t => trivial

theorem along_of_kept {I : σ -> Prop} (hcondition : forall s i, I s -> P s i)
    (hkept : forall s i, I s -> Sat (exec i) (fun _ t => I t) (fun _ _ => True) s)
    (is : List ι) (s : σ) (hs : I s) : Along exec P is s :=
  (along_true is s).of_kept (fun s i hinv _ => hcondition s i hinv)
    (fun s i hinv _ => hkept s i hinv) hs

theorem eachReply_iff_along_of_kept {I : σ -> Prop} {R : σ -> ι -> ρ -> σ -> Prop}
    (hstep : forall s i, I s ->
      (Sat (exec i) (fun r t => R s i r t) (fun _ _ => True) s <-> P s i))
    (hkept : forall s i, I s -> P s i ->
      Sat (exec i) (fun _ t => I t) (fun _ _ => True) s)
    (is : List ι) (s : σ) (hs : I s) :
    EachReply exec R is s <-> Along exec P is s := by
  induction is generalizing s with
  | nil => rfl
  | cons i is ih =>
      have hi := hstep s i hs
      have hnext := hkept s i hs
      rw [EachReply, Along]
      cases hexec : exec i s with
      | ok r t =>
          rw [sat_of_ok hexec] at hi hnext
          rw [← hi] at hnext ⊢
          exact and_congr_right fun hr => ih t (hnext hr)
      | error e t =>
          rw [sat_of_error hexec] at hi
          constructor
          · intro _
            exact ⟨hi.mp trivial, trivial⟩
          · intro _
            trivial

theorem eachReply_iff_along {R : σ -> ι -> ρ -> σ -> Prop}
    (hstep : forall s i,
      Sat (exec i) (fun r t => R s i r t) (fun _ _ => True) s <-> P s i)
    (is : List ι) (s : σ) :
    EachReply exec R is s <-> Along exec P is s :=
  eachReply_iff_along_of_kept (I := fun _ => True) (fun s i _ => hstep s i)
    (fun _ _ _ _ => sat_true) is s trivial

end Rules

end Lib
end Sm7225
